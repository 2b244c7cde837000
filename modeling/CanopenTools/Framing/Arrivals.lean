import CanopenTools.Framing.Numbered
import CanopenTools.Framing.PrefixCodec

/-!
# Reading the front of a numbered stream

A stream of numbered records arrives up to some symbol. The records that a prefix codec reads from
what has arrived are those of which every symbol is there (`Complete`), in the order of the stream
(`drain_arrived`). A record that is broken off by the end of the stream or of the arrival is not
read.
-/

set_option autoImplicit false
set_option relaxedAutoImplicit false

namespace CanopenTools.Framing

variable {β ρ : Type*}

/-- Every symbol of the record with a number has arrived. -/
def Complete (record : ℕ → List β) (number : ℕ) (arrived : List (ℕ × β)) : Prop :=
  (arrived.filter fun symbol ↦ symbol.1 = number).map Prod.snd = record number

/-- The stream of whole records with the given numbers. -/
def numberedStream (record : ℕ → List β) (numbers : List ℕ) : List (ℕ × β) :=
  numbers.flatMap fun number ↦ tagged number (record number)

variable {record : ℕ → List β} {bound : ℕ} {stream : List (ℕ × β)}

/-- An orderly stream is the front of a stream of whole records. -/
theorem Orderly.front_of_whole (horderly : Orderly record bound stream) :
    ∃ numbers : List ℕ, numbers.Pairwise (· < ·) ∧ (∀ number ∈ numbers, number < bound) ∧
      stream <+: numberedStream record numbers := by
  rcases horderly with ⟨numbers, hincreasing, hbelow, rfl⟩ | ⟨number, hnumber, rest, hunderway⟩
  · exact ⟨numbers, hincreasing, hbelow, List.prefix_rfl⟩
  · -- With the rest of its record written the stream would be whole.
    have hfinished := hunderway.write rest.length
    rw [List.drop_length] at hfinished
    obtain ⟨numbers, hincreasing, hbelow, hwhole⟩ := hfinished.finish
    refine ⟨numbers, hincreasing, fun other hother ↦ ?_, ?_⟩
    · exact (Nat.lt_succ_iff.mp (hbelow other hother)).trans_lt hnumber
    · rw [numberedStream, ← hwhole]
      exact List.prefix_append _ _

theorem filter_tagged_self (number : ℕ) (symbols : List β) :
    (tagged number symbols).filter (fun symbol ↦ symbol.1 = number) = tagged number symbols := by
  rw [List.filter_eq_self]
  intro symbol hsymbol
  simpa using fst_of_mem_tagged hsymbol

theorem filter_eq_nil_of_fst_ne {number : ℕ} {symbols : List (ℕ × β)}
    (hother : ∀ symbol ∈ symbols, symbol.1 ≠ number) :
    symbols.filter (fun symbol ↦ symbol.1 = number) = [] := by
  rw [List.filter_eq_nil_iff]
  intro symbol hsymbol
  simpa using hother symbol hsymbol

/-- The symbols of a stream of whole records belong to these records. -/
theorem fst_mem_of_mem_numberedStream {numbers : List ℕ} {symbol : ℕ × β}
    (hsymbol : symbol ∈ numberedStream record numbers) : symbol.1 ∈ numbers := by
  obtain ⟨number, hnumber, hsymbol⟩ := List.mem_flatMap.mp hsymbol
  rw [fst_of_mem_tagged hsymbol]
  exact hnumber

/-- A record is complete in front of records of other numbers. -/
theorem complete_tagged_append {number : ℕ} {later : List (ℕ × β)}
    (hlater : ∀ symbol ∈ later, symbol.1 ≠ number) :
    Complete record number (tagged number (record number) ++ later) := by
  rw [Complete, List.filter_append, filter_tagged_self, filter_eq_nil_of_fst_ne hlater,
    List.append_nil, map_snd_tagged]

/-- Records of other numbers in front do not matter. -/
theorem complete_tagged_append_of_ne {number other : ℕ} (hother : other ≠ number)
    (symbols : List β) (later : List (ℕ × β)) :
    Complete record number (tagged other symbols ++ later) ↔ Complete record number later := by
  have hnone : ∀ symbol ∈ tagged other symbols, symbol.1 ≠ number := fun symbol hsymbol ↦ by
    rwa [fst_of_mem_tagged hsymbol]
  rw [Complete, Complete, List.filter_append, filter_eq_nil_of_fst_ne hnone, List.nil_append]

/-- Nothing of a complete record can be missing. -/
theorem not_complete_of_lt {number : ℕ} {symbols : List β}
    (hshort : symbols.length < (record number).length) :
    ¬ Complete record number (tagged number symbols) := by
  intro hcomplete
  rw [Complete, filter_tagged_self, map_snd_tagged] at hcomplete
  rw [hcomplete] at hshort
  exact lt_irrefl _ hshort

/-- A broken-off record holds no complete record. -/
theorem not_complete_broken_off {number : ℕ} {symbols missing : List β}
    (hsplit : record number = symbols ++ missing) (hmissing : missing ≠ []) {other : ℕ}
    (hother : record other ≠ []) : ¬ Complete record other (tagged number symbols) := by
  by_cases hsame : other = number
  · subst hsame
    apply not_complete_of_lt
    have hpos := List.length_pos_iff.mpr hmissing
    rw [hsplit, List.length_append]
    omega
  · intro hcomplete
    have hnone : ∀ symbol ∈ tagged number symbols, symbol.1 ≠ other := fun symbol hsymbol ↦ by
      rw [fst_of_mem_tagged hsymbol]
      exact Ne.symm hsame
    rw [Complete, filter_eq_nil_of_fst_ne hnone] at hcomplete
    exact hother hcomplete.symm

/-- What a codec reads from the front of a stream of whole records: the records that are complete,
in order. -/
theorem drain_arrived (codec : PrefixCodec β ρ) {body : ℕ → ρ} {numbers : List ℕ}
    (hincreasing : numbers.Pairwise (· < ·))
    (hrecord : ∀ number ∈ numbers,
      codec.Valid (body number) ∧ record number = codec.encode (body number))
    {arrived : List (ℕ × β)} (hfront : arrived <+: numberedStream record numbers) :
    ∃ complete : List ℕ, complete.Sublist numbers ∧
      (∀ number, number ∈ complete ↔ number ∈ numbers ∧ Complete record number arrived) ∧
      (codec.drain (arrived.map Prod.snd)).1 = complete.map body := by
  induction numbers generalizing arrived with
  | nil =>
    obtain rfl : arrived = [] := List.prefix_nil.mp hfront
    exact ⟨[], List.Sublist.refl _, fun number ↦ by simp, by simp⟩
  | cons number numbers ih =>
    obtain ⟨hlater, hincreasing⟩ := List.pairwise_cons.mp hincreasing
    obtain ⟨hvalid, hencode⟩ := hrecord number List.mem_cons_self
    -- Behind the first record the induction hypothesis reads what has arrived of the others.
    have hwhole : ∀ rest, arrived = tagged number (record number) ++ rest →
        rest <+: numberedStream record numbers → ∃ complete : List ℕ,
          complete.Sublist (number :: numbers) ∧
          (∀ other, other ∈ complete ↔ other ∈ number :: numbers ∧ Complete record other arrived) ∧
          (codec.drain (arrived.map Prod.snd)).1 = complete.map body := by
      rintro rest rfl hrest
      obtain ⟨complete, hsublist, hmem, hdrain⟩ :=
        ih hincreasing (fun other hother ↦ hrecord other (List.mem_cons_of_mem _ hother)) hrest
      have hfresh : ∀ symbol ∈ rest, symbol.1 ≠ number := fun symbol hsymbol ↦
        (hlater _ (fst_mem_of_mem_numberedStream (hrest.subset hsymbol))).ne'
      refine ⟨number :: complete, hsublist.cons_cons number, fun other ↦ ?_, ?_⟩
      · by_cases hsame : other = number
        · subst hsame
          simp [complete_tagged_append hfresh]
        · simp only [List.mem_cons, hsame, false_or, hmem,
            complete_tagged_append_of_ne (Ne.symm hsame)]
      · rw [List.map_append, map_snd_tagged, hencode,
          codec.drain_of_some (codec.next_encode _ _ hvalid), hdrain, List.map_cons]
    obtain ⟨more, hmore⟩ := hfront
    rw [numberedStream, List.flatMap_cons] at hmore
    rcases List.append_eq_append_iff.mp hmore with ⟨missing, hsplit, -⟩ | ⟨rest, hrest, hmore⟩
    · by_cases hmissing : missing = []
      · subst hmissing
        exact hwhole [] (by rw [hsplit]; simp) (List.nil_prefix)
      · obtain ⟨symbols, others, hrecords, rfl, rfl⟩ := List.map_eq_append_iff.mp hsplit
        have hothers : others ≠ [] := fun hnil ↦ hmissing (by rw [hnil]; rfl)
        refine ⟨[], List.nil_sublist _, fun other ↦ ?_, ?_⟩
        · refine iff_of_false List.not_mem_nil fun ⟨hother, hcomplete⟩ ↦ ?_
          refine not_complete_broken_off hrecords hothers ?_ hcomplete
          rw [(hrecord other hother).2]
          exact codec.encode_ne_nil _
        · have hnone := codec.next_eq_none_of_prefix hvalid hothers (hrecords.symm.trans hencode)
          have hsymbols := map_snd_tagged number symbols
          rw [tagged] at hsymbols
          rw [hsymbols, codec.drain_of_none hnone, List.map_nil]
    · exact hwhole rest hrest ⟨more, hmore.symm⟩

/-- A complete record that is not empty has symbols that have arrived. -/
theorem Complete.exists_mem {number : ℕ} {arrived : List (ℕ × β)}
    (hcomplete : Complete record number arrived) (hrecord : record number ≠ []) :
    ∃ symbol ∈ arrived, symbol.1 = number := by
  by_contra hnone
  push Not at hnone
  rw [Complete, filter_eq_nil_of_fst_ne hnone] at hcomplete
  exact hrecord hcomplete.symm

/-- What a codec reads from what has arrived of an orderly stream: the complete records, in the
order of their numbers. -/
theorem drain_arrived_orderly (codec : PrefixCodec β ρ) (body : ℕ → ρ)
    (horderly : Orderly record bound stream)
    (hrecord : ∀ number < bound,
      codec.Valid (body number) ∧ record number = codec.encode (body number))
    {arrived : List (ℕ × β)} (hfront : arrived <+: stream) :
    ∃ complete : List ℕ, complete.Pairwise (· < ·) ∧
      (∀ number, number ∈ complete ↔ number < bound ∧ Complete record number arrived) ∧
      (codec.drain (arrived.map Prod.snd)).1 = complete.map body := by
  obtain ⟨numbers, hincreasing, hbelow, hwhole⟩ := horderly.front_of_whole
  have harrived := hfront.trans hwhole
  obtain ⟨complete, hsublist, hmem, hdrain⟩ := drain_arrived codec hincreasing
    (fun number hnumber ↦ hrecord number (hbelow number hnumber)) harrived
  refine ⟨complete, hincreasing.sublist hsublist, fun number ↦ ?_, hdrain⟩
  rw [hmem]
  refine and_congr_left fun hcomplete ↦ ⟨hbelow number, fun hnumber ↦ ?_⟩
  have hnonempty : record number ≠ [] := by
    rw [(hrecord number hnumber).2]
    exact codec.encode_ne_nil _
  obtain ⟨symbol, hsymbol, rfl⟩ := hcomplete.exists_mem hnonempty
  exact fst_mem_of_mem_numberedStream (harrived.subset hsymbol)

end CanopenTools.Framing
