/-
A record is read from whatever states it.

What a record looks like in a document is said here apart from how it is read: each of its
entries is told by some values, goes by some names and may be left unsaid if it is as usual.
Reading sets one field for each member, so after some members the record is the one meant in
the entries that were told, and as it starts out in the others; that mixture is the invariant
that every field keeps.  Once every entry was told or is as usual, the mixture is the record.
-/
import ModelGateway.Json.Decode
import ModelGateway.Proofs.Json.Members
import ModelGateway.Proofs.Lists
import ModelGateway.Proofs.Result

namespace ModelGateway.Json

/-! ### Stating a record -/

/-- What a document may say of one part of a record. -/
structure Entry where
  name : String
  aliases : List String := []
  /-- The values that tell it. -/
  tells : Json → Prop
  /-- It may be left unsaid. -/
  usual : Prop

/-- The names that an entry goes by. -/
def Entry.names (e : Entry) : List String := e.name :: e.aliases

/-- Some members state a record of these entries. -/
structure Stated (entries : List Entry) (members : List (String × Json)) : Prop where
  told : ∀ m ∈ members, ∃ e ∈ entries, m.1 ∈ e.names ∧ e.tells m.2
  /-- No entry is told twice, not even under two of its names. -/
  once : members.Pairwise fun m k => ∀ e ∈ entries, m.1 ∈ e.names → k.1 ∉ e.names
  complete : ∀ e ∈ entries, e.usual ∨ ∃ m ∈ members, m.1 ∈ e.names

/-- A document is an object whose members, in whatever order they were given, state a record. -/
def States (entries : List Entry) (doc : Json) : Prop :=
  ∃ members, doc = ofMembers members ∧ Stated entries members

variable {entries : List Entry} {members : List (String × Json)} {doc : Json}

theorem Stated.distinct (h : Stated entries members) : members.Pairwise (·.1 ≠ ·.1) := by
  refine h.once.imp_of_mem fun {m k} hm _ honce heq => ?_
  obtain ⟨e, he, hname, -⟩ := h.told m hm
  exact honce e he hname (heq ▸ hname)

/-- The order of members does not matter. -/
theorem Stated.perm {other : List (String × Json)} (h : Stated entries members)
    (hperm : members.Perm other) : Stated entries other where
  told m hm := h.told m (hperm.mem_iff.mpr hm)
  once := (hperm.pairwise_iff fun honce e he hk hm => honce e he hm hk).mp h.once
  complete e he := by
    refine (h.complete e he).imp_right fun ⟨m, hm, hname⟩ => ?_
    exact ⟨m, hperm.mem_iff.mp hm, hname⟩

/-- Entries that are told one after the other under their own names are stated. -/
theorem stated_of_forall₂ (hdistinct : entries.Pairwise fun e k => ∀ n ∈ e.names, n ∉ k.names)
    (h : List.Forall₂ (fun e m => m.1 = e.name ∧ e.tells m.2) entries members) :
    Stated entries members := by
  have hname : ∀ {e : Entry} {m : String × Json}, m.1 = e.name → m.1 ∈ e.names :=
    fun heq => heq ▸ List.mem_cons_self
  induction h with
  | nil => exact ⟨by simp, .nil, by simp⟩
  | @cons e m entries members hem h ih =>
    obtain ⟨hfirst, hrest⟩ := List.pairwise_cons.mp hdistinct
    have hstated := ih hrest
    -- a name of one entry is a name of no other
    have hother : ∀ k ∈ members, k.1 ∉ e.names := by
      intro k hk hke
      obtain ⟨d, hd, hkd, -⟩ := hstated.told k hk
      exact hfirst d hd _ hke hkd
    have hself : ∀ d ∈ entries, m.1 ∉ d.names := fun d hd => hfirst d hd _ (hname hem.1)
    refine ⟨fun k hk => ?_, List.pairwise_cons.mpr ⟨fun k hk d hd hmd => ?_, ?_⟩, fun d hd => ?_⟩
    · rcases List.mem_cons.mp hk with rfl | hk
      · exact ⟨e, List.mem_cons_self, hname hem.1, hem.2⟩
      · obtain ⟨d, hd, htold⟩ := hstated.told k hk
        exact ⟨d, List.mem_cons_of_mem e hd, htold⟩
    · rcases List.mem_cons.mp hd with rfl | hd
      · exact hother k hk
      · exact absurd hmd (hself d hd)
    · refine hstated.once.imp_of_mem fun {k l} hk _ honce d hd hkd => ?_
      rcases List.mem_cons.mp hd with rfl | hd
      · exact absurd hkd (hother k hk)
      · exact honce d hd hkd
    · rcases List.mem_cons.mp hd with rfl | hd
      · exact Or.inr ⟨m, List.mem_cons_self, hname hem.1⟩
      · refine (hstated.complete d hd).imp_right fun ⟨k, hk, hkd⟩ => ?_
        exact ⟨k, List.mem_cons_of_mem m hk, hkd⟩

/-! ### Reading a record -/

variable {σ : Type} {shape : Shape σ} {s : σ} {mixed : List String → σ}

/-- A field goes by a name. -/
def Field.goesBy (n : String) (f : Field σ) : Bool := f.name == n || f.aliases.contains n

/-- A field reads an entry: it has its names, and a value that tells the entry sets just it. -/
structure Field.Reads (f : Field σ) (e : Entry) (mixed : List String → σ) : Prop where
  name : f.name = e.name
  aliases : f.aliases = e.aliases
  required : f.required = true → ¬ e.usual
  read : ∀ v, e.tells v → ∀ seen, f.read v (mixed seen) = .ok (mixed (e.name :: seen))

theorem Field.Reads.goesBy_iff {f : Field σ} {e : Entry} {n : String} (h : f.Reads e mixed) :
    f.goesBy n = true ↔ n ∈ e.names := by
  rw [goesBy, Bool.or_eq_true, beq_iff_eq, List.contains_iff_mem, h.name, h.aliases, Entry.names,
    List.mem_cons, eq_comm]

/-- The fields of a record read its entries, and `mixed` is the record as far as it was told. -/
structure Shape.Reads (shape : Shape σ) (s : σ) (entries : List Entry)
    (mixed : List String → σ) : Prop where
  distinct : entries.Pairwise fun e k => ∀ n ∈ e.names, n ∉ k.names
  fields : List.Forall₂ (fun f e => f.Reads e mixed) shape.fields entries
  starts : mixed [] = shape.start
  ends : ∀ seen, (∀ e ∈ entries, e.usual ∨ e.name ∈ seen) → mixed seen = s

namespace Shape.Reads

/-- Each entry has one field, which all its names stand for. -/
theorem field?_eq (h : shape.Reads s entries mixed) {e : Entry} (he : e ∈ entries) :
    ∃ f, (∀ n ∈ e.names, shape.field? n = some f) ∧ f.Reads e mixed := by
  obtain ⟨hdistinct, hfields, -, -⟩ := h
  have hfield : ∀ n, shape.field? n = shape.fields.find? (·.goesBy n) := fun _ => rfl
  simp only [hfield]
  generalize shape.fields = fields at hfields ⊢
  induction hfields with
  | nil => simp at he
  | @cons f k fields entries hfk hfields ih =>
    obtain ⟨hfirst, hrest⟩ := List.pairwise_cons.mp hdistinct
    rcases List.mem_cons.mp he with rfl | he
    · exact ⟨f, fun n hn => List.find?_cons_of_pos (hfk.goesBy_iff.mpr hn), hfk⟩
    · obtain ⟨g, hg, hge⟩ := ih he hrest
      refine ⟨g, fun n hn => ?_, hge⟩
      have hskip : ¬ f.goesBy n = true := fun hf => hfirst e he n (hfk.goesBy_iff.mp hf) hn
      rw [List.find?_cons_of_neg hskip, hg n hn]

theorem eq_of_name_eq (h : shape.Reads s entries mixed) {e k : Entry} (he : e ∈ entries)
    (hk : k ∈ entries) (heq : e.name = k.name) : e = k := by
  have hnodup : (entries.map Entry.name).Nodup :=
    List.pairwise_map.mpr (h.distinct.imp fun {e k} hek (hsame : e.name = k.name) =>
      hek e.name List.mem_cons_self (hsame ▸ List.mem_cons_self))
  exact List.inj_on_of_nodup_map hnodup he hk heq

/-- After some members, the entries they told are as meant. -/
theorem foldlM_takeMember (h : shape.Reads s entries mixed) {seen : List String}
    (htold : ∀ m ∈ members, ∃ e ∈ entries, m.1 ∈ e.names ∧ e.tells m.2)
    (honce : members.Pairwise fun m k => ∀ e ∈ entries, m.1 ∈ e.names → k.1 ∉ e.names)
    (hfresh : ∀ m ∈ members, ∀ e ∈ entries, m.1 ∈ e.names → e.name ∉ seen) :
    ∃ all, members.foldlM shape.takeMember (mixed seen, seen) = .ok (mixed all, all) ∧
      seen ⊆ all ∧ ∀ m ∈ members, ∀ e ∈ entries, m.1 ∈ e.names → e.name ∈ all := by
  induction members generalizing seen with
  | nil => exact ⟨seen, rfl, List.Subset.refl _, by simp⟩
  | cons m members ih =>
    obtain ⟨e, he, hname, hvalue⟩ := htold m List.mem_cons_self
    obtain ⟨f, hfield, hf⟩ := h.field?_eq he
    obtain ⟨hhead, htail⟩ := List.pairwise_cons.mp honce
    -- an entry is known by the field that its names stand for
    have hsame : ∀ k ∈ entries, m.1 ∈ k.names → k.name = e.name := by
      intro k hk hmk
      obtain ⟨g, hg, hgk⟩ := h.field?_eq hk
      have heq : g = f := Option.some.inj ((hg _ hmk).symm.trans (hfield _ hname))
      rw [← hgk.name, heq, hf.name]
    have hstep : shape.takeMember (mixed seen, seen) m =
        .ok (mixed (e.name :: seen), e.name :: seen) := by
      have hnew : seen.contains e.name = false := by
        simpa using hfresh m List.mem_cons_self e he hname
      simp only [takeMember, hfield _ hname, hf.name, hnew, hf.read _ hvalue]
      rfl
    have hunseen : ∀ k ∈ members, ∀ d ∈ entries, k.1 ∈ d.names → d.name ∉ e.name :: seen := by
      intro k hk d hd hkd
      rw [List.mem_cons]
      rintro (heq | hseen)
      · exact hhead k hk e he hname (h.eq_of_name_eq hd he heq ▸ hkd)
      · exact hfresh k (List.mem_cons_of_mem m hk) d hd hkd hseen
    obtain ⟨all, hall, hsub, htold'⟩ :=
      ih (fun k hk => htold k (List.mem_cons_of_mem m hk)) htail hunseen
    refine ⟨all, ?_, fun x hx => hsub (List.mem_cons_of_mem _ hx), fun k hk d hd hkd => ?_⟩
    · rw [List.foldlM_cons, hstep, Result.ok_bind, hall]
    · rcases List.mem_cons.mp hk with rfl | hk
      · rw [hsame d hd hkd]
        exact hsub List.mem_cons_self
      · exact htold' k hk d hd hkd

theorem ofObject (h : shape.Reads s entries mixed) (hstated : Stated entries members) :
    shape.ofObject members = .ok s := by
  have hfresh : ∀ m ∈ members, ∀ e ∈ entries, m.1 ∈ e.names → e.name ∉ ([] : List String) := by
    simp
  obtain ⟨all, hall, -, htold⟩ := h.foldlM_takeMember hstated.told hstated.once hfresh
  have hseen : ∀ e ∈ entries, e.usual ∨ e.name ∈ all := fun e he =>
    (hstated.complete e he).imp_right fun ⟨m, hm, hname⟩ => htold m hm e he hname
  have hnone : (shape.fields.find? fun f => f.required && !all.contains f.name) = none := by
    refine List.find?_eq_none.mpr fun f hf hmissing => ?_
    obtain ⟨hrequired, hunseen⟩ := Bool.and_eq_true_iff.mp hmissing
    obtain ⟨e, he, hfe⟩ := Related.mem_left h.fields hf
    have hmem : e.name ∈ all := (hseen e he).resolve_left (hfe.required hrequired)
    rw [← hfe.name] at hmem
    simp [hmem] at hunseen
  rw [Shape.ofObject, ← h.starts, hall, Result.ok_bind]
  simp only [hnone, h.ends all hseen]

/-- A record is read from any document that states it. -/
theorem decode (h : shape.Reads s entries mixed) (hstates : States entries doc) :
    shape.decode doc = .ok s := by
  obtain ⟨members, rfl, hstated⟩ := hstates
  have hperm := sorted_perm hstated.distinct
  exact h.ofObject (hstated.perm hperm.symm)

end Shape.Reads

/-! ### Reading values -/

theorem readOptional_some {α : Type} {read : Json → Except Error α} {v : Json} {x : α}
    (hv : v ≠ .null) (h : read v = .ok x) : readOptional read v = .ok (some x) := by
  rw [readOptional, h]
  · rfl
  · exact hv

/-- An integer of 64 bits is read wherever its bounds allow it. -/
theorem readInteger_ofInt {expected : String} {low high i : Int} (hsize : i.natAbs < UInt64.size)
    (hbounds : low ≤ i ∧ i ≤ high) : readInteger expected low high (ofInt i) = .ok i := by
  cases i with
  | ofNat n =>
    have hn : (UInt64.ofNat n).toNat = n := UInt64.toNat_ofNat_of_lt hsize
    simp only [ofInt, ofNat, readInteger, hn]
    exact if_pos hbounds
  | negSucc n =>
    have hn : (UInt64.ofNat n).toNat = n := UInt64.toNat_ofNat_of_lt (Nat.lt_of_succ_lt hsize)
    have hi : -((n : Int) + 1) = .negSucc n := (Int.negSucc_eq n).symm
    simp only [ofInt, readInteger, hn, hi]
    exact if_pos hbounds

theorem readList_of_forall₂ {α : Type} {read : Json → Except Error α} {xs : List α} {vs : List Json}
    (h : List.Forall₂ (fun x v => read v = .ok x) xs vs) : readList read (.array vs) = .ok xs := by
  rw [readList]
  induction h with
  | nil => rfl
  | cons hxv h ih =>
    rw [List.mapM_cons, hxv, Result.ok_bind, ih]
    rfl

end ModelGateway.Json
