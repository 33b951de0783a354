/-
The names that an annotation lists.

A list of models is cut at every separator, and what is empty is dropped.  What is left is the
text's runs: the stretches without a separator that could not be longer.  A separator keeps the
runs on both sides of it apart, and everything else follows from that.  Which separators stand
around a name and how many is then no matter, and since the names make a set, neither is the
order in which they stand or how often.
-/
import ModelGateway.Endpoint.Addressing
import ModelGateway.Proofs.Lists
import ModelGateway.Proofs.Text.Pieces

namespace ModelGateway

/-- Sets with the same members are the same. -/
theorem NameSet.eq_of_mem_iff {s t : NameSet} (h : ∀ name, name ∈ s ↔ name ∈ t) : s = t := by
  obtain ⟨xs, hxs⟩ := s
  obtain ⟨ys, hys⟩ := t
  obtain rfl : xs = ys :=
    eq_of_ascending String.lt_irrefl (fun hab hba => String.lt_asymm hab hba) hxs hys h
  rfl

namespace ModelNames

variable {text a b run gap behind : List Char} {c : Char} {value name : String}

/-! ### Runs -/

/-- A stretch of a text without separators, which could not be longer. -/
structure IsRun (text run : List Char) : Prop where
  inhabited : run ≠ []
  unbroken : ∀ c ∈ run, isNameSeparator c = false
  /-- On either side there is a separator, or the text is at its end. -/
  maximal : ∃ before behind, text = before ++ run ++ behind ∧
    (∀ c ∈ before.getLast?, isNameSeparator c = true) ∧
      ∀ c ∈ behind.head?, isNameSeparator c = true

/-- The runs of a text, in their order. -/
def runs (text : List Char) : List (List Char) :=
  (Text.splitOn isNameSeparator text).filter (!·.isEmpty)

theorem mem_runs : run ∈ runs text ↔ IsRun text run := by
  have hkept : (!run.isEmpty) = true ↔ run ≠ [] := by simp
  rw [runs, List.mem_filter, Text.mem_splitOn_iff, hkept]
  constructor
  · rintro ⟨⟨hunbroken, hmaximal⟩, hinhabited⟩
    exact ⟨hinhabited, hunbroken, hmaximal⟩
  · intro h
    exact ⟨⟨h.unbroken, h.maximal⟩, h.inhabited⟩

theorem mem_readModelList : name ∈ readModelList value ↔ name.toList ∈ runs value.toList := by
  have hnames : readModelList value = NameSet.ofList ((runs value.toList).map String.ofList) := rfl
  rw [hnames, NameSet.mem_ofList, List.mem_map]
  constructor
  · rintro ⟨run, hrun, rfl⟩
    rwa [String.toList_ofList]
  · intro h
    exact ⟨name.toList, h, String.ofList_toList⟩

/-! ### Names in a row -/

/-- A separator keeps the runs on both sides of it apart. -/
theorem runs_separator (hc : isNameSeparator c = true) (a b : List Char) :
    runs (a ++ c :: b) = runs a ++ runs b := by
  rw [runs, Text.splitOn_separator hc, List.filter_append]
  rfl

/-- Nothing but separators. -/
def IsGap (gap : List Char) : Prop := ∀ c ∈ gap, isNameSeparator c = true

instance : DecidablePred IsGap := fun gap =>
  decidable_of_iff (gap.all isNameSeparator = true) List.all_eq_true

theorem runs_gap (h : IsGap gap) : runs (gap ++ text) = runs text := by
  induction gap with
  | nil => rfl
  | cons c gap ih =>
    have hc : isNameSeparator c = true := h c List.mem_cons_self
    have hfront : runs (c :: (gap ++ text)) = runs [] ++ runs (gap ++ text) :=
      runs_separator hc [] (gap ++ text)
    rw [List.cons_append, hfront, ih fun x hx => h x (List.mem_cons_of_mem c hx)]
    rfl

/-- What may be listed: a name that is not empty and holds no separator. -/
def IsListable (name : String) : Prop :=
  name ≠ "" ∧ ∀ c ∈ name.toList, isNameSeparator c = false

instance : DecidablePred IsListable := fun name =>
  decidable_of_iff (name ≠ "" ∧ name.toList.all (!isNameSeparator ·) = true)
    (by simp [IsListable])

/-- A name is a run if a separator follows it, or nothing does. -/
theorem runs_name (h : IsListable name) (hstop : ∀ c ∈ text.head?, isNameSeparator c = true) :
    runs (name.toList ++ text) = name.toList :: runs text := by
  have hwhole : runs name.toList = [name.toList] := by
    have hkept : name.toList ≠ [] := fun hnil => h.1 (String.toList_eq_nil_iff.mp hnil)
    rw [runs, Text.splitOn_of_none h.2]
    simp [hkept]
  cases text with
  | nil => rw [List.append_nil, hwhole]; rfl
  | cons c text =>
    have hc : isNameSeparator c = true := hstop c rfl
    have hgap : IsGap [c] := by simpa [IsGap] using hc
    have hfront : runs (c :: text) = runs text := runs_gap hgap
    rw [runs_separator hc, hwhole, hfront, List.singleton_append]

/-- Names one after another, each behind what is written before it. -/
def row (entries : List (List Char × String)) : List Char :=
  entries.flatMap fun e => e.1 ++ e.2.toList

/-- Names with gaps between them are the runs of what is written. -/
theorem runs_row {entries : List (List Char × String)} (hnames : ∀ e ∈ entries, IsListable e.2)
    (hgaps : ∀ e ∈ entries, IsGap e.1) (hapart : ∀ e ∈ entries.tail, e.1 ≠ [])
    (hbehind : IsGap behind) :
    runs (row entries ++ behind) = entries.map fun e => e.2.toList := by
  induction entries with
  | nil =>
    show runs behind = []
    rw [← List.append_nil behind, runs_gap hbehind]
    rfl
  | cons e rest ih =>
    have hsplit : row (e :: rest) ++ behind = e.1 ++ (e.2.toList ++ (row rest ++ behind)) := by
      simp [row]
    have hrest : runs (row rest ++ behind) = rest.map fun e => e.2.toList :=
      ih (fun x hx => hnames x (List.mem_cons_of_mem e hx))
        (fun x hx => hgaps x (List.mem_cons_of_mem e hx))
        (fun x hx => hapart x (List.mem_of_mem_tail hx))
    -- behind a name comes the gap before the next one, or what ends the text
    have hstop : ∀ c ∈ (row rest ++ behind).head?, isNameSeparator c = true := by
      intro c hc
      cases rest with
      | nil => exact hbehind c (List.mem_of_mem_head? hc)
      | cons next more =>
        obtain ⟨x, gap, hgap⟩ := List.exists_cons_of_ne_nil (hapart next List.mem_cons_self)
        have hx : x = c := by simpa [row, hgap] using hc
        exact hgaps next (by simp) c (by simp [hgap, hx])
    rw [hsplit, runs_gap (hgaps e List.mem_cons_self), runs_name (hnames e List.mem_cons_self) hstop,
      hrest, List.map_cons]

theorem isNameSeparator_iff :
    isNameSeparator c = true ↔ c = ',' ∨ c = ';' ∨ Text.isBlank c = true := by
  rw [isNameSeparator, Bool.or_assoc, Bool.or_eq_true, Bool.or_eq_true, beq_iff_eq, beq_iff_eq]

/-- **The models in an annotation are exactly its runs.**  A name is read if and only if it is one
of the longest stretches without a comma, a semicolon or a blank.  And names that may be listed are
read back as the set that they are, in whatever order they stand and however often, with any
separators between them, at least one, and any or none around them. -/
theorem readModelList_reads_runs :
    (∀ c, isNameSeparator c = true ↔ c = ',' ∨ c = ';' ∨ Text.isBlank c = true) ∧
      (∀ value name, name ∈ readModelList value ↔ IsRun value.toList name.toList) ∧
      ∀ (names : NameSet) (entries : List (List Char × String)) (behind : List Char),
        (∀ name ∈ names, IsListable name) → (∀ name, name ∈ names ↔ name ∈ entries.map Prod.snd) →
        (∀ e ∈ entries, IsGap e.1) → (∀ e ∈ entries.tail, e.1 ≠ []) → IsGap behind →
          readModelList (String.ofList (row entries ++ behind)) = names := by
  refine ⟨fun _ => isNameSeparator_iff, fun value name => mem_readModelList.trans mem_runs, ?_⟩
  intro names entries behind hlistable hsame hgaps hapart hbehind
  have hnames : ∀ e ∈ entries, IsListable e.2 := fun e he =>
    hlistable e.2 ((hsame e.2).mpr (List.mem_map_of_mem he))
  have hruns : runs (row entries ++ behind) = (entries.map Prod.snd).map String.toList := by
    rw [runs_row hnames hgaps hapart hbehind, List.map_map]
    rfl
  refine NameSet.eq_of_mem_iff fun name => ?_
  rw [mem_readModelList, String.toList_ofList, hruns, hsame,
    List.mem_map_of_injective fun _ _ => String.toList_inj.mp]

/-- Separators of all kinds, a repeated name and one that is part of another. -/
theorem readModelList_of_repeated_name :
    let names : NameSet := .ofList ["gpt-4", "gpt"]
    let entries := [([';', '\u00a0'], "gpt"), ([',', '\u3000'], "gpt-4"), ([' ', ','], "gpt")]
    (∀ name ∈ names, IsListable name) ∧ (∀ e ∈ entries, IsGap e.1) ∧
      String.ofList (row entries ++ ['\u2028']) = ";\u00a0gpt,\u3000gpt-4 ,gpt\u2028" ∧
      readModelList ";\u00a0gpt,\u3000gpt-4 ,gpt\u2028" = names ∧ names.toList = ["gpt", "gpt-4"] := by
  intro names entries
  have hlistable : ∀ name ∈ names, IsListable name := by
    intro name hname
    have hlisted : name ∈ ["gpt-4", "gpt"] := NameSet.mem_ofList.mp hname
    rcases List.mem_pair.mp hlisted with rfl | rfl <;> decide
  have hsame : ∀ name, name ∈ names ↔ name ∈ entries.map Prod.snd := by
    intro name
    simp only [names, entries, NameSet.mem_ofList, List.map_cons, List.map_nil, List.mem_cons,
      List.not_mem_nil, or_false]
    exact ⟨fun h => h.elim (fun h => .inr (.inl h)) .inl, fun h => h.elim .inr fun h => h⟩
  have hgaps : ∀ e ∈ entries, IsGap e.1 := by decide
  have hapart : ∀ e ∈ entries.tail, e.1 ≠ [] := by decide
  have hbehind : IsGap ['\u2028'] := by decide
  have hread := readModelList_reads_runs.2.2 names entries _ hlistable hsame hgaps hapart hbehind
  exact ⟨hlistable, hgaps, by decide +kernel, hread, by decide +kernel⟩

end ModelNames

end ModelGateway
