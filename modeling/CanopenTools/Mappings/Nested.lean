import Mathlib.Data.List.Basic

/-!
# Nested mappings

Mappings with keys of one type whose values are plain values or mappings again, to any depth, with
the entries in the order of their insertion. `Mapping` has one constructor for each kind of entry,
so that an induction over it has the mapping inside an entry and the remaining entries as its two
cases. Where the kind does not matter `cons` stands for both, with `cons_induction`.

An operation is described by what is looked up afterwards: `lookup` by one key, `get` along a path
of keys. `UniqueKeys` says that no key occurs twice at any level. A `Config` carries it.
-/

set_option autoImplicit false
set_option relaxedAutoImplicit false

namespace CanopenTools.Mappings

variable {κ υ : Type*}

/-- A nested mapping, entry by entry. -/
inductive Mapping (κ υ : Type*)
  | empty
  | value (key : κ) (plain : υ) (rest : Mapping κ υ)
  | node (key : κ) (child rest : Mapping κ υ)
  deriving DecidableEq, Repr

/-- What a key of a nested mapping stands for. -/
inductive Entry (κ υ : Type*)
  | value (plain : υ)
  | mapping (child : Mapping κ υ)
  deriving DecidableEq, Repr

namespace Mapping

/-! ### Entries -/

/-- The keys at the top, in their order. -/
def keys : Mapping κ υ → List κ
  | empty => []
  | value key _ rest => key :: rest.keys
  | node key _ rest => key :: rest.keys

/-- The entries of one mapping and then those of another. -/
def append : Mapping κ υ → Mapping κ υ → Mapping κ υ
  | empty, more => more
  | value key plain rest, more => value key plain (rest.append more)
  | node key child rest, more => node key child (rest.append more)

/-- An entry in front of a mapping. -/
def cons (key : κ) : Entry κ υ → Mapping κ υ → Mapping κ υ
  | .value plain, rest => value key plain rest
  | .mapping child, rest => node key child rest

/-- Induction along the entries, whatever their kinds are. -/
theorem cons_induction {motive : Mapping κ υ → Prop} (empty : motive .empty)
    (cons : ∀ key entry rest, motive rest → motive (cons key entry rest))
    (mapping : Mapping κ υ) : motive mapping := by
  induction mapping with
  | empty => exact empty
  | value key plain rest ih => exact cons key (.value plain) rest ih
  | node key child rest _ ih => exact cons key (.mapping child) rest ih

@[simp] theorem keys_cons (key : κ) (entry : Entry κ υ) (rest : Mapping κ υ) :
    (cons key entry rest).keys = key :: rest.keys := by
  cases entry <;> rfl

@[simp] theorem append_cons (key : κ) (entry : Entry κ υ) (rest more : Mapping κ υ) :
    (cons key entry rest).append more = cons key entry (rest.append more) := by
  cases entry <;> rfl

@[simp] theorem append_empty (mapping : Mapping κ υ) : mapping.append empty = mapping := by
  induction mapping using cons_induction with
  | empty => rfl
  | cons key entry rest ih => rw [append_cons, ih]

theorem append_assoc (first second third : Mapping κ υ) :
    (first.append second).append third = first.append (second.append third) := by
  induction first using cons_induction with
  | empty => rfl
  | cons key entry rest ih => rw [append_cons, append_cons, append_cons, ih]

theorem keys_append (first second : Mapping κ υ) :
    (first.append second).keys = first.keys ++ second.keys := by
  induction first using cons_induction with
  | empty => rfl
  | cons key entry rest ih => rw [append_cons, keys_cons, ih, keys_cons, List.cons_append]

/-! ### Unique keys -/

/-- No key occurs twice, at any level. -/
def UniqueKeys : Mapping κ υ → Prop
  | empty => True
  | value key _ rest => key ∉ rest.keys ∧ rest.UniqueKeys
  | node key child rest => key ∉ rest.keys ∧ child.UniqueKeys ∧ rest.UniqueKeys

end Mapping

/-- No key occurs twice inside an entry. -/
def Entry.UniqueKeys : Entry κ υ → Prop
  | .value _ => True
  | .mapping child => child.UniqueKeys

/-- A nested mapping as it is read from a file: no key occurs twice. -/
structure Config (κ υ : Type*) where
  entries : Mapping κ υ
  unique : entries.UniqueKeys

namespace Mapping

theorem uniqueKeys_cons (key : κ) (entry : Entry κ υ) (rest : Mapping κ υ) :
    (cons key entry rest).UniqueKeys ↔ key ∉ rest.keys ∧ entry.UniqueKeys ∧ rest.UniqueKeys := by
  cases entry with
  | value plain => exact and_congr_right fun _ ↦ ⟨fun hrest ↦ ⟨trivial, hrest⟩, And.right⟩
  | mapping child => exact Iff.rfl

variable [DecidableEq κ]

/-! ### One key -/

/-- `mapping.get(key)`, or none for a key that is not there. -/
def lookup : Mapping κ υ → κ → Option (Entry κ υ)
  | empty, _ => none
  | value key plain rest, wanted => if key = wanted then some (.value plain) else rest.lookup wanted
  | node key child rest, wanted =>
    if key = wanted then some (.mapping child) else rest.lookup wanted

/-- `mapping[key] = entry`: a key that is there keeps its place. -/
def set : Mapping κ υ → κ → Entry κ υ → Mapping κ υ
  | empty, wanted, entry => cons wanted entry empty
  | value key plain rest, wanted, entry =>
    if key = wanted then cons key entry rest else value key plain (rest.set wanted entry)
  | node key child rest, wanted, entry =>
    if key = wanted then cons key entry rest else node key child (rest.set wanted entry)

/-- `mapping.setdefault(key, entry)`: the entry that is there, or the given one, which is set. -/
def setDefault (mapping : Mapping κ υ) (key : κ) (entry : Entry κ υ) :
    Entry κ υ × Mapping κ υ :=
  match mapping.lookup key with
  | some found => (found, mapping)
  | none => (entry, mapping.set key entry)

@[simp] theorem lookup_cons (key wanted : κ) (entry : Entry κ υ) (rest : Mapping κ υ) :
    (cons key entry rest).lookup wanted =
      if key = wanted then some entry else rest.lookup wanted := by
  cases entry <;> rfl

theorem set_cons (key wanted : κ) (entry other : Entry κ υ) (rest : Mapping κ υ) :
    (cons key entry rest).set wanted other =
      if key = wanted then cons key other rest else cons key entry (rest.set wanted other) := by
  cases entry <;> rfl

theorem lookup_eq_none_iff (mapping : Mapping κ υ) (wanted : κ) :
    mapping.lookup wanted = none ↔ wanted ∉ mapping.keys := by
  induction mapping using cons_induction with
  | empty => exact iff_of_true rfl List.not_mem_nil
  | cons key entry rest ih =>
    rw [lookup_cons, keys_cons, List.mem_cons, not_or]
    by_cases hkey : key = wanted
    · simp [hkey]
    · simp [hkey, ih, Ne.symm hkey]

/-- An assignment is seen at its key and nowhere else. -/
theorem lookup_set (mapping : Mapping κ υ) (key wanted : κ) (entry : Entry κ υ) :
    (mapping.set key entry).lookup wanted =
      if key = wanted then some entry else mapping.lookup wanted := by
  induction mapping using cons_induction with
  | empty => rw [set, lookup_cons]
  | cons other old rest ih =>
    rw [set_cons, lookup_cons]
    by_cases hother : other = key
    · subst hother
      rw [if_pos rfl, lookup_cons]
      split_ifs <;> rfl
    · rw [if_neg hother, lookup_cons, ih]
      by_cases hwanted : other = wanted
      · subst hwanted
        rw [if_pos rfl, if_neg (Ne.symm hother), if_pos rfl]
      · rw [if_neg hwanted, if_neg hwanted]

theorem lookup_set_self (mapping : Mapping κ υ) (key : κ) (entry : Entry κ υ) :
    (mapping.set key entry).lookup key = some entry := by
  rw [lookup_set, if_pos rfl]

theorem lookup_set_of_ne (mapping : Mapping κ υ) {key wanted : κ} (hne : key ≠ wanted)
    (entry : Entry κ υ) : (mapping.set key entry).lookup wanted = mapping.lookup wanted := by
  rw [lookup_set, if_neg hne]

/-- Of two assignments at one key the later one counts. -/
theorem set_set (mapping : Mapping κ υ) (key : κ) (first second : Entry κ υ) :
    (mapping.set key first).set key second = mapping.set key second := by
  induction mapping using cons_induction with
  | empty => rw [set, set_cons, if_pos rfl, set]
  | cons other old rest ih =>
    rw [set_cons, set_cons]
    by_cases hother : other = key
    · rw [if_pos hother, if_pos hother, set_cons, if_pos hother]
    · rw [if_neg hother, if_neg hother, set_cons, if_neg hother, ih]

/-- To assign what is there is nothing. -/
theorem set_of_lookup {mapping : Mapping κ υ} {key : κ} {entry : Entry κ υ}
    (hlookup : mapping.lookup key = some entry) : mapping.set key entry = mapping := by
  induction mapping using cons_induction with
  | empty => cases hlookup
  | cons other old rest ih =>
    rw [lookup_cons] at hlookup
    rw [set_cons]
    by_cases hother : other = key
    · rw [if_pos hother] at hlookup
      rw [if_pos hother, Option.some.inj hlookup]
    · rw [if_neg hother] at hlookup
      rw [if_neg hother, ih hlookup]

/-- A new key goes to the end. -/
theorem set_of_lookup_eq_none {mapping : Mapping κ υ} {key : κ} (hkey : mapping.lookup key = none)
    (entry : Entry κ υ) : mapping.set key entry = mapping.append (cons key entry empty) := by
  induction mapping using cons_induction with
  | empty => rfl
  | cons other old rest ih =>
    rw [lookup_cons] at hkey
    by_cases hother : other = key
    · rw [if_pos hother] at hkey
      cases hkey
    · rw [if_neg hother] at hkey
      rw [set_cons, if_neg hother, ih hkey, append_cons]

/-- A default for a key that is there changes nothing. -/
theorem setDefault_of_lookup {mapping : Mapping κ υ} {key : κ} {found : Entry κ υ}
    (hlookup : mapping.lookup key = some found) (entry : Entry κ υ) :
    mapping.setDefault key entry = (found, mapping) := by
  rw [setDefault, hlookup]

/-- After `setdefault` a key stands for what was there, or for the default. -/
theorem lookup_setDefault (mapping : Mapping κ υ) (key wanted : κ) (entry : Entry κ υ) :
    (mapping.setDefault key entry).2.lookup wanted =
      if key = wanted then some ((mapping.lookup key).getD entry) else mapping.lookup wanted := by
  unfold setDefault
  cases hlookup : mapping.lookup key with
  | none => exact lookup_set mapping key wanted entry
  | some found =>
    by_cases hkey : key = wanted
    · subst hkey
      rw [if_pos rfl]
      exact hlookup
    · rw [if_neg hkey]

/-- What is looked up in a mapping with unique keys has unique keys. -/
theorem uniqueKeys_of_lookup {mapping : Mapping κ υ} (hmapping : mapping.UniqueKeys) {key : κ}
    {entry : Entry κ υ} (hlookup : mapping.lookup key = some entry) : entry.UniqueKeys := by
  induction mapping using cons_induction with
  | empty => cases hlookup
  | cons other old rest ih =>
    obtain ⟨-, hold, hrest⟩ := (uniqueKeys_cons _ _ _).mp hmapping
    rw [lookup_cons] at hlookup
    split_ifs at hlookup with hother
    · exact Option.some.inj hlookup ▸ hold
    · exact ih hrest hlookup

end Mapping

/-! ### Paths -/

variable [DecidableEq κ]

/-- What a path of keys leads to from an entry. -/
def Entry.get : Entry κ υ → List κ → Option (Entry κ υ)
  | entry, [] => some entry
  | .value _, _ :: _ => none
  | .mapping child, key :: path => (child.lookup key).bind fun entry ↦ entry.get path

/-- What a path of keys leads to in a mapping. The empty path leads to the mapping itself. -/
def Mapping.get (mapping : Mapping κ υ) (path : List κ) : Option (Entry κ υ) :=
  (Entry.mapping mapping).get path

@[simp] theorem Entry.get_nil (entry : Entry κ υ) : entry.get [] = some entry := by
  cases entry <;> rfl

theorem Mapping.get_cons (mapping : Mapping κ υ) (key : κ) (path : List κ) :
    mapping.get (key :: path) = (mapping.lookup key).bind fun entry ↦ entry.get path :=
  rfl

end CanopenTools.Mappings
