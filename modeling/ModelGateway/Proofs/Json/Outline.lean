/-
An object is taken member by member.

Reading by an outline walks an object once.  What it has taken so far depends on the members
behind it alone, each of them being passed over, taken or refused on its own, so the walk is
a fold over the members as they stand in the text.  A member is passed over whatever its
value is, as long as its name means something.
-/
import ModelGateway.Json.Outline
import ModelGateway.Proofs.Json.Reading
import ModelGateway.Proofs.Json.Skip

namespace ModelGateway.Json

/-- Some blanks and more of them. -/
def Gap.append (g h : Gap) : Gap where
  bytes := g.bytes ++ h.bytes
  blank := fun b hb => (List.mem_append.mp hb).elim (g.blank b) (h.blank b)

namespace Outline

variable {σ : Type} {o : Outline σ} {told : Asked σ → Member → σ → Except Error σ}
  {state : σ × List String} {members : List Member} {m : Member} {rest : List UInt8}
  {isFirst : Bool} {rounds : Nat}

/-- What a member adds to what was taken so far. -/
def tell (o : Outline σ) (told : Asked σ → Member → σ → Except Error σ) (state : σ × List String)
    (m : Member) : Except Error (σ × List String) := do
  let name ← spelt m.name
  match o.fields.find? (·.name == name) with
  | none => .ok state
  | some f =>
    if state.2.contains f.name then .error (.duplicateField f.name)
    else (told f m state.1).map fun s => (s, f.name :: state.2)

/-- A member that is asked for is taken up to what follows it. -/
def Tells (o : Outline σ) (told : Asked σ → Member → σ → Except Error σ) (m : Member) : Prop :=
  ∀ f ∈ o.fields, spelt m.name = .ok f.name → ∀ s rest, Ends rest →
    f.take (m.item.bytes ++ rest) s = (told f m s).map (·, m.item.behind.bytes ++ rest)

theorem skipValue_item (h : IsValue m.item.value) (hrest : Ends rest) :
    skipValue (m.item.bytes ++ rest) = .ok (m.item.behind.bytes ++ rest) := by
  rw [Item.bytes, List.append_assoc, List.append_assoc,
    skipValue_append _ h (m.item.behind.ends hrest)]

/-- One round takes one member. -/
theorem takeMembers_step (g : Gap) (hvalue : IsValue m.item.value) (htold : o.Tells told m)
    (hrest : Ends rest) :
    o.takeMembers (rounds + 1) isFirst state (g.bytes ++ led isFirst (m.bytes ++ rest)) =
      o.tell told state m >>= fun state =>
        o.takeMembers rounds false state (m.item.behind.bytes ++ rest) := by
  obtain ⟨s, seen⟩ := state
  have hnext : nextMember isFirst (g.bytes ++ led isFirst (m.bytes ++ rest)) =
      (spelt m.name).map fun name => some (name, m.tail ++ rest) := by
    rw [← nextMember_led m, nextMember, nextMember, skipBlanks_gap]
  rw [takeMembers, hnext, tell]
  cases hname : spelt m.name with
  | error e => rfl
  | ok name =>
    simp only [Except.map, Result.ok_bind, readColon_tail]
    cases hfield : o.fields.find? (·.name == name) with
    | none =>
      simp only [skipValue_item hvalue hrest, Result.ok_bind]
    | some f =>
      obtain rfl : f.name = name := by simpa using List.find?_some hfield
      have htake := htold f (List.mem_of_find?_eq_some hfield) hname s rest hrest
      simp only [htake]
      split
      · rfl
      · cases told f m s <;> rfl

/-- Taking the members of an object is a fold over them. -/
theorem takeMembers_joined (g gap : Gap) (hvalues : ∀ m ∈ members, IsValue m.item.value)
    (htold : ∀ m ∈ members, o.Tells told m) (hrounds : members.length < rounds) :
    ∃ g' : Gap, o.takeMembers rounds isFirst state
        (g.bytes ++ (joined isFirst (members.map Member.bytes) ++ (gap.bytes ++ 0x7D :: rest))) =
      (members.foldlM (o.tell told) state).map (·, g'.bytes ++ 0x7D :: rest) := by
  obtain ⟨n, rfl⟩ : ∃ n, rounds = n + 1 := Nat.exists_eq_add_one.mpr (Nat.zero_lt_of_lt hrounds)
  induction members generalizing n isFirst state g with
  | nil =>
    refine ⟨g.append gap, ?_⟩
    have hnext : nextMember isFirst (g.bytes ++ (gap.bytes ++ 0x7D :: rest)) = .ok none := by
      rw [nextMember, skipBlanks_gap, skipBlanks_gap]
      rfl
    rw [List.map_nil, joined, List.nil_append, takeMembers, hnext]
    simp [Gap.append, Result.ok_bind, pure, Except.pure, Except.map]
  | cons m members ih =>
    have hends : Ends (joined false (members.map Member.bytes) ++ (gap.bytes ++ 0x7D :: rest)) :=
      ends_joined (gap.ends ends_brace)
    rw [List.map_cons, joined_append, takeMembers_step g (hvalues m List.mem_cons_self)
      (htold m List.mem_cons_self) hends, List.foldlM_cons]
    cases o.tell told state m with
    | error e => exact ⟨gap, rfl⟩
    | ok state =>
      obtain ⟨k, rfl⟩ : ∃ k, n = k + 1 :=
        Nat.exists_eq_add_one.mpr (Nat.zero_lt_of_lt (Nat.lt_of_succ_lt_succ hrounds))
      exact ih m.item.behind (fun x hx => hvalues x (List.mem_cons_of_mem m hx))
        (fun x hx => htold x (List.mem_cons_of_mem m hx)) k (Nat.lt_of_succ_lt_succ hrounds)

/-- What was taken, if nothing that must be there is missing. -/
def whole (o : Outline σ) (state : σ × List String) : Except Error σ :=
  match o.fields.find? fun f => f.required && !state.2.contains f.name with
  | some f => .error (.missingField f.name)
  | none => .ok state.1

/-- What taking an object does behind its members. -/
def finish (o : Outline σ) (taken : (σ × List String) × List UInt8) :
    Except Error (σ × List UInt8) :=
  match o.fields.find? fun f => f.required && !taken.1.2.contains f.name with
  | some f => .error (.missingField f.name)
  | none => do .ok (taken.1.1, ← closeObject taken.2)

/-- An object is read by what its members tell, one after the other. -/
theorem read_object (lead gap trail : Gap) (hvalues : ∀ m ∈ members, IsValue m.item.value)
    (htold : ∀ m ∈ members, o.Tells told m) :
    o.read (lead.bytes ++ (0x7B :: objectTail members gap ++ trail.bytes)) =
      members.foldlM (o.tell told) (o.start, []) >>= o.whole := by
  have hmembers : objectTail members gap ++ trail.bytes = Gap.none.bytes ++
      (joined true (members.map Member.bytes) ++ (gap.bytes ++ 0x7D :: trail.bytes)) := by
    simp [objectTail, listed_eq, Gap.none]
  have hrounds : members.length < (objectTail members gap ++ trail.bytes).length + 1 := by
    have hlength := length_le_joined true Member.bytes members
    simp only [objectTail, listed_eq, List.length_append, List.length_cons]
    omega
  obtain ⟨g', hwalk⟩ : ∃ g' : Gap, o.takeMembers _ true (o.start, []) (Gap.none.bytes ++
      (joined true (members.map Member.bytes) ++ (gap.bytes ++ 0x7D :: trail.bytes))) =
        (members.foldlM (o.tell told) (o.start, [])).map (·, g'.bytes ++ 0x7D :: trail.bytes) :=
    takeMembers_joined Gap.none gap hvalues htold hrounds
  have htake : o.take (lead.bytes ++ (0x7B :: objectTail members gap ++ trail.bytes)) =
      o.takeMembers ((objectTail members gap ++ trail.bytes).length + 1) true (o.start, [])
        (objectTail members gap ++ trail.bytes) >>= o.finish := by
    rw [take, skipBlanks_gap]
    rfl
  rw [← hmembers] at hwalk
  rw [read, htake, hwalk]
  cases members.foldlM (o.tell told) (o.start, []) with
  | error e => rfl
  | ok state =>
    have hclose : closeObject (g'.bytes ++ 0x7D :: trail.bytes) = .ok trail.bytes := by
      rw [closeObject, skipBlanks_gap]
      rfl
    simp only [Except.map, Result.ok_bind, finish, whole]
    split
    · rfl
    · simp only [hclose, Result.ok_bind, atEnd_gap]

end Outline

/-- A text that is taken as it stands is refused if any of it is an escape. -/
theorem takePlainText_quoted (g : Gap) (signs : List Sign) (rest : List UInt8) :
    takePlainText (g.bytes ++ (quoted signs ++ rest)) = spelt signs >>= fun s =>
      if signs.all Sign.isPlain then .ok (s, rest)
      else .error (.invalidType (describeText s) "a borrowed string") := by
  have htake : takePlainText (quoted signs ++ rest) =
      readString (unquoted signs ++ rest) >>= fun x =>
        if x.1.2 then .error (.invalidType (describeText x.1.1) "a borrowed string")
        else .ok (x.1.1, x.2) := rfl
  have hgap : takePlainText (g.bytes ++ (quoted signs ++ rest)) =
      takePlainText (quoted signs ++ rest) := by
    simp only [takePlainText, skipBlanks_gap]
  rw [hgap, htake, readString_unquoted]
  cases spelt signs with
  | error e => rfl
  | ok s => cases h : signs.all Sign.isPlain <;> simp [Except.map, Result.ok_bind]

/-! ### Long ends -/

theorem toList_eq_data (bytes : ByteArray) : bytes.toList = bytes.data.toList := by
  have hloop : ∀ (i : Nat) (r : List UInt8),
      ByteArray.toList.loop bytes i r = r.reverse ++ bytes.data.toList.drop i := by
    intro i r
    fun_induction ByteArray.toList.loop bytes i r with
    | case1 i r h ih =>
      have hi : i < bytes.data.toList.length := by simpa using h
      rw [ih, List.drop_eq_getElem_cons hi]
      simp [ByteArray.get!, h]
    | case2 i r h =>
      rw [List.drop_eq_nil_of_le (by simpa using Nat.le_of_not_lt h), List.append_nil]
  exact hloop 0 []

theorem blank_of_sizeBeforeBlanks {bytes : ByteArray} {n i : Nat} (h : n ≤ bytes.size)
    (hi : sizeBeforeBlanks bytes n h ≤ i) (hn : i < n) : bytes[i] = 0x20 := by
  induction n with
  | zero => omega
  | succ n ih =>
    rw [sizeBeforeBlanks] at hi
    split at hi
    · next hblank =>
      by_cases hlast : i = n
      · subst hlast
        exact hblank
      · exact ih (by omega) hi (by omega)
    · omega

/-- What is left out at the end of a text is blanks. -/
theorem textBytes_append (bytes : ByteArray) :
    ∃ blanks, bytes.data.toList = textBytes bytes ++ blanks ∧ ∀ b ∈ blanks, b = 0x20 := by
  refine ⟨bytes.data.toList.drop (sizeBeforeBlanks bytes bytes.size (Nat.le_refl _) + 4), ?_, ?_⟩
  · simp [textBytes, toList_eq_data]
  · intro b hb
    obtain ⟨i, hi, rfl⟩ := List.mem_iff_getElem.mp hb
    rw [List.getElem_drop]
    have hsize : sizeBeforeBlanks bytes bytes.size (Nat.le_refl _) + 4 + i < bytes.size := by
      simpa [Nat.add_comm, Nat.lt_sub_iff_add_lt] using hi
    exact blank_of_sizeBeforeBlanks (Nat.le_refl _) (by omega) hsize

/-- A text that ends with something and then blanks, of which some are left out. -/
theorem textBytes_of_gap {bytes : ByteArray} {text : List UInt8} {last : UInt8} {trail : Gap}
    (hlast : isBlank last = false) (h : bytes.data.toList = text ++ last :: trail.bytes) :
    ∃ g : Gap, textBytes bytes = text ++ last :: g.bytes := by
  obtain ⟨blanks, hbytes, hblanks⟩ := textBytes_append bytes
  have hsplit : textBytes bytes ++ blanks = (text ++ [last]) ++ trail.bytes := by
    rw [← hbytes, h, List.append_assoc, List.singleton_append]
  rcases List.append_eq_append_iff.mp hsplit with ⟨lost, hlost, hrest⟩ | ⟨kept, hkept, hrest⟩
  · rcases List.eq_nil_or_concat lost with rfl | ⟨more, b, rfl⟩
    · exact ⟨Gap.none, by rw [Gap.none, ← List.append_nil (textBytes bytes), ← hlost]⟩
    · -- the last byte of the text would be a blank
      rw [List.concat_eq_append, ← List.append_assoc] at hlost
      have hb : last = b := (List.append_singleton_inj.mp hlost).2
      have hblank : b = 0x20 := hblanks b (by simp [hrest])
      rw [hb, hblank] at hlast
      cases hlast
  · refine ⟨⟨kept, fun b hb => trail.blank b (by simp [hrest, hb])⟩, ?_⟩
    rw [hkept, List.append_assoc, List.singleton_append]

end ModelGateway.Json
