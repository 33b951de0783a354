/-
Internet addresses are read as they are written.

Reading is generous and writing is not, so only one direction holds: what is written as an
address is read as that address.  A version 4 address comes apart at its full stops into
four short numbers.  A version 6 address comes apart at its colons into groups, and where a
run of zeros was left out there are two colons together, which stand nowhere else.
-/
import Mathlib.Data.List.TakeWhile
import ModelGateway.Proofs.Lists
import ModelGateway.Proofs.Text.Digits
import ModelGateway.Proofs.Text.Pieces
import ModelGateway.Url.Ip

namespace ModelGateway.Url

/-! ### Version 4 -/

namespace Ipv4

variable {n : Nat} {c : Char}

/-- The parts of an address in decimal. -/
def parts (ip : Ipv4) : List (List Char) := ip.bytes.map (Nat.toDigits 10)

theorem bytes_lt (ip : Ipv4) : ∀ n ∈ ip.bytes, n < 256 := by
  have hvalue : ip.value.toNat < 4294967296 := ip.value.toNat_lt
  simp only [bytes, List.mem_cons, List.not_mem_nil, or_false]
  omega

theorem toList_write (ip : Ipv4) : ip.write.toList = ['.'].intercalate ip.parts := by
  rw [write, String.toList_intercalate, List.map_map, parts]
  simp [Function.comp_def]

theorem isDigit_of_part {ip : Ipv4} {part : List Char} (hpart : part ∈ ip.parts) (hc : c ∈ part) :
    Text.isDigit c = true := by
  obtain ⟨n, -, rfl⟩ := List.mem_map.mp hpart
  exact Text.isDigit_of_mem hc

theorem splitOn_write (ip : Ipv4) : Text.splitOn (· == '.') ip.write.toList = ip.parts := by
  rw [toList_write]
  refine Text.splitOn_intercalate rfl (fun part hpart c hc => ?_) (by simp [parts, bytes])
  rw [beq_eq_false_iff_ne]
  rintro rfl
  exact absurd (isDigit_of_part hpart hc) (by decide)

theorem readPart?_toDigits (h : n < 256) : readPart? (Nat.toDigits 10 n) = some n := by
  have hall : ∀ m : Fin 256, readPart? (Nat.toDigits 10 m.val) = some m.val := by decide +kernel
  exact hall ⟨n, h⟩

/-- Four bytes make an address. -/
theorem ofParts?_four {a b c d : Nat} (ha : a < 256) (hb : b < 256) (hc : c < 256) (hd : d < 256) :
    ofParts? [a, b, c, d] = some ⟨UInt32.ofNat (d + a <<< 24 + b <<< 16 + c <<< 8)⟩ := by
  have hbytes : ¬ [c, b, a].any (255 < ·) = true := by
    simp
    omega
  have hlast : d < 1 <<< (8 * (5 - [a, b, c, d].length)) := hd
  show (if _ then _ else if _ then some (Ipv4.mk (UInt32.ofNat _)) else _) = _
  rw [if_neg (by simpa using hbytes), if_pos hlast]
  rfl

theorem ofParts?_bytes (ip : Ipv4) : ofParts? ip.bytes = some ip := by
  have hvalue : ip.value.toNat < 4294967296 := ip.value.toNat_lt
  have hsum : ip.value.toNat % 256 + (ip.value.toNat / 16777216) <<< 24 +
      (ip.value.toNat / 65536 % 256) <<< 16 + (ip.value.toNat / 256 % 256) <<< 8 =
        ip.value.toNat := by
    simp only [Nat.shiftLeft_eq]
    omega
  refine (ofParts?_four (by omega) (by omega) (by omega) (by omega)).trans ?_
  rw [hsum, UInt32.ofNat_toNat]

/-- What is written as an address is read as it. -/
theorem read?_write (ip : Ipv4) : read? ip.write.toList = some ip := by
  have hlast : ip.parts.getLast? ≠ some [] := by
    simp [parts, bytes, Nat.toDigits_ne_nil]
  have hparts : ip.parts.mapM readPart? = some ip.bytes :=
    Related.mapM_map_of_read fun n hn => readPart?_toDigits (bytes_lt ip n hn)
  unfold read?
  simp only [splitOn_write, if_neg hlast, hparts, Option.bind_some, ofParts?_bytes]

/-- What is written as an address looks like one. -/
theorem isNumeric_write (ip : Ipv4) : isNumeric ip.write.toList = true := by
  obtain ⟨front, last, hparts⟩ : ∃ front last, ip.parts = front ++ [last] := ⟨[_, _, _], _, rfl⟩
  have hlast : last ∈ ip.parts := by simp [hparts]
  have hdigits : last.all Text.isDigit = true :=
    List.all_eq_true.mpr fun c hc => isDigit_of_part hlast hc
  obtain ⟨n, -, hn⟩ := List.mem_map.mp hlast
  obtain ⟨x, xs, hx⟩ := List.exists_cons_of_ne_nil (Nat.toDigits_ne_nil (n := n) (b := 10))
  unfold isNumeric
  rw [splitOn_write, hparts, List.reverse_append, ← hn, hx]
  rw [← hn, hx] at hdigits
  simp [hdigits]

/-- An address is written with digits and full stops. -/
theorem mem_write {ip : Ipv4} (h : c ∈ ip.write.toList) : c ∈ "0123456789.".toList := by
  have hall : ∀ c ∈ "0123456789".toList, c ∈ "0123456789.".toList :=
    List.all_iff_forall_prop.mp (by decide)
  rw [toList_write] at h
  rcases Text.mem_intercalate h with rfl | ⟨part, hpart, hc⟩
  · decide
  · obtain ⟨n, -, rfl⟩ := List.mem_map.mp hpart
    exact hall c (Text.mem_decimal hc)

theorem write_ne_nil (ip : Ipv4) : ip.write.toList ≠ [] := by
  intro hnil
  have hfour : (Text.splitOn (· == '.') ip.write.toList).length = 4 := by
    rw [ip.splitOn_write]
    rfl
  rw [hnil] at hfour
  cases hfour

end Ipv4

/-! ### Version 6 -/

namespace Ipv6

variable {g : UInt16} {gs : List UInt16} {c : Char} {cs rest : List Char}

/-- The characters of a group are digits, so neither colon nor full stop is one. -/
theorem mem_writeGroup (h : c ∈ writeGroup g) : c ≠ ':' ∧ c ≠ '.' := by
  have hall : ∀ d : Fin 16, Nat.digitChar d ≠ ':' ∧ Nat.digitChar d ≠ '.' := by decide
  obtain ⟨d, hd, rfl⟩ := Text.digitChar_of_mem (by decide) h
  exact hall ⟨d, hd⟩

theorem writeGroup_ne_nil : writeGroup g ≠ [] := Nat.toDigits_ne_nil

theorem readGroup?_writeGroup (g : UInt16) : readGroup? (writeGroup g) = some g := by
  have hg : g.toNat < 16 ^ 4 := g.toNat_lt
  have hlength : ¬ 4 < (writeGroup g).length :=
    Nat.not_lt.mpr ((Nat.length_toDigits_le_iff (by decide) (by decide)).mpr hg)
  obtain ⟨ds, hds, hvalue⟩ := Text.hexValues_toDigits g.toNat
  unfold readGroup?
  rw [if_neg (by simp [hlength, writeGroup_ne_nil]), writeGroup, hds]
  simp [hvalue]

theorem readGroups?_map {dotted : Bool} : readGroups? dotted (gs.map writeGroup) = some gs := by
  induction gs with
  | nil => rfl
  | cons g gs ih =>
    cases gs with
    | nil =>
      have hdot : '.' ∉ writeGroup g := fun h => (mem_writeGroup h).2 rfl
      simp [readGroups?, hdot, readGroup?_writeGroup]
    | cons h gs =>
      rw [List.map_cons] at ih
      rw [List.map_cons, List.map_cons, readGroups?, readGroup?_writeGroup, ih]
      · rfl
      · simp

/-- A stretch of groups comes apart at its colons. -/
theorem readStretch?_writeGroups {dotted : Bool} :
    readStretch? dotted (writeGroups gs) = some gs := by
  cases gs with
  | nil => rfl
  | cons g gs =>
    have hsplit : Text.splitOn (· == ':') (writeGroups (g :: gs)) = (g :: gs).map writeGroup := by
      refine Text.splitOn_intercalate rfl (fun piece hpiece c hc => ?_) (by simp)
      obtain ⟨g, -, rfl⟩ := List.mem_map.mp hpiece
      simpa using (mem_writeGroup hc).1
    have hne : (writeGroups (g :: gs)).isEmpty = false := by
      rw [List.isEmpty_eq_false_iff]
      intro hnil
      rw [hnil] at hsplit
      exact writeGroup_ne_nil (List.cons.inj hsplit).1.symm
    unfold readStretch?
    rw [hne, hsplit]
    exact readGroups?_map

/-! ### Where zeros were left out -/

theorem cutGap_append (h : ∀ c ∈ cs, c ≠ ':') :
    cutGap (cs ++ rest) = (cutGap rest).map fun x => (cs ++ x.1, x.2) := by
  induction cs with
  | nil => simp
  | cons c cs ih =>
    have hc := h c (by simp)
    rw [List.cons_append, cutGap, ih fun x hx => h x (by simp [hx]), Option.map_map]
    · rfl
    · simp [hc]

theorem writeGroups_cons {h : UInt16} :
    writeGroups (g :: h :: gs) = writeGroup g ++ ':' :: writeGroups (h :: gs) := by
  simp [writeGroups, List.intercalate_cons_cons]

theorem writeGroups_head : ∃ c cs, writeGroups (g :: gs) = c :: cs ∧ c ≠ ':' := by
  obtain ⟨c, cs, hc⟩ := List.exists_cons_of_ne_nil (writeGroup_ne_nil (g := g))
  have hmem : c ∈ writeGroup g := hc ▸ List.mem_cons_self
  have hcolon : c ≠ ':' := (mem_writeGroup hmem).1
  cases gs with
  | nil => exact ⟨c, cs, by simpa [writeGroups] using hc, hcolon⟩
  | cons h gs => exact ⟨c, _, by rw [writeGroups_cons, hc, List.cons_append], hcolon⟩

/-- Groups with single colons between them hold no gap. -/
theorem cutGap_writeGroups :
    cutGap (writeGroups gs ++ rest) = (cutGap rest).map fun x => (writeGroups gs ++ x.1, x.2) := by
  have hgroup : ∀ g : UInt16, ∀ c ∈ writeGroup g, c ≠ ':' := fun g c hc => (mem_writeGroup hc).1
  induction gs with
  | nil => simp [writeGroups]
  | cons g gs ih =>
    cases gs with
    | nil =>
      have hone : writeGroups [g] = writeGroup g := by simp [writeGroups]
      rw [hone, cutGap_append (hgroup g)]
    | cons h gs =>
      obtain ⟨c, cs, hhead, hc⟩ : ∃ c cs, writeGroups (h :: gs) = c :: cs ∧ c ≠ ':' :=
        writeGroups_head
      have hcolon : cutGap (':' :: (writeGroups (h :: gs) ++ rest)) =
          (cutGap (writeGroups (h :: gs) ++ rest)).map fun x => (':' :: x.1, x.2) := by
        rw [hhead, List.cons_append, cutGap]
        simp [hc]
      rw [writeGroups_cons, List.append_assoc, List.cons_append, cutGap_append (hgroup g), hcolon,
        ih, Option.map_map, Option.map_map]
      simp [Function.comp_def]

/-- What is left out is a run of zeros. -/
theorem longestGap_zeros {i start size : Nat} (h : longestGap i gs = (start, size)) :
    size = 0 ∨ ∃ front behind, gs = front ++ List.replicate size 0 ++ behind ∧
      start = i + front.length := by
  induction gs generalizing i with
  | nil => exact Or.inl (Prod.mk.inj h).2.symm
  | cons g gs ih =>
    simp only [longestGap] at h
    split at h
    · obtain ⟨rfl, rfl⟩ := Prod.mk.inj h
      refine Or.inr ⟨[], (g :: gs).dropWhile (· == 0), ?_, rfl⟩
      have hzeros : (g :: gs).takeWhile (· == 0) =
          List.replicate (zerosAhead (g :: gs)) 0 :=
        List.eq_replicate_of_mem fun x hx => by simpa using List.mem_takeWhile_imp hx
      rw [List.nil_append, ← hzeros, List.takeWhile_append_dropWhile]
    · rcases ih h with hnone | ⟨front, behind, rfl, rfl⟩
      · exact Or.inl hnone
      · exact Or.inr ⟨g :: front, behind, rfl, by rw [List.length_cons]; omega⟩

/-- What is written as an address is read as it. -/
theorem read?_write (ip : Ipv6) : read? ip.write.toList = some ip := by
  obtain ⟨start, size, hgap⟩ : ∃ start size, longestGap 0 ip.groups = (start, size) := ⟨_, _, rfl⟩
  by_cases hsize : size < 2
  · have hwrite : ip.write.toList = writeGroups ip.groups := by
      simp [write, hgap, hsize]
    have hcut : cutGap (writeGroups ip.groups) = none := by
      rw [← List.append_nil (writeGroups ip.groups), cutGap_writeGroups]
      rfl
    unfold read?
    rw [hwrite, hcut]
    simp [readStretch?_writeGroups, ip.eight]
  · obtain ⟨front, behind, hgroups, rfl⟩ := (longestGap_zeros hgap).resolve_left (by omega)
    rw [Nat.zero_add] at hgap
    have hbehind : ip.groups.drop (front.length + size) = behind := by
      rw [hgroups]
      exact List.drop_left' (by simp)
    have hfront : ip.groups.take front.length = front := by
      rw [hgroups, List.append_assoc, List.take_left]
    have hwrite : ip.write.toList = writeGroups front ++ ':' :: ':' :: writeGroups behind := by
      simp [write, hgap, hsize, hfront, hbehind]
    have hcut : cutGap (writeGroups front ++ ':' :: ':' :: writeGroups behind) =
        some (writeGroups front, writeGroups behind) := by
      rw [cutGap_writeGroups]
      simp [cutGap]
    have hlength : front.length + size + behind.length = 8 := by
      have height := ip.eight
      rw [hgroups] at height
      simpa [Nat.add_assoc] using height
    have hleft : 8 - (front.length + behind.length) = size := by omega
    have hsome : size ≠ 0 := by omega
    unfold read?
    rw [hwrite, hcut]
    simp only [readStretch?_writeGroups, Option.bind_eq_bind, Option.bind_some, hleft, if_neg hsome,
      ← hgroups, dif_pos ip.eight]

/-- An address is written with hexadecimal digits and colons, and there is a colon in it. -/
theorem mem_write {ip : Ipv6} : (∀ c ∈ ip.write.toList, c ∈ "0123456789abcdef:".toList) ∧
    ':' ∈ ip.write.toList := by
  have hgroups : ∀ gs, ∀ c ∈ writeGroups gs, c ∈ "0123456789abcdef:".toList := by
    have hall : ∀ d : Fin 16, Nat.digitChar d ∈ "0123456789abcdef:".toList := by decide
    intro gs c hc
    rcases Text.mem_intercalate hc with rfl | ⟨piece, hpiece, hc⟩
    · decide
    · obtain ⟨g, -, rfl⟩ := List.mem_map.mp hpiece
      obtain ⟨d, hd, rfl⟩ := Text.digitChar_of_mem (by decide) hc
      exact hall ⟨d, hd⟩
  rw [write]
  simp only [String.toList_ofList]
  split
  · refine ⟨hgroups _, ?_⟩
    obtain ⟨g, h, gs, hgs⟩ : ∃ g h gs, ip.groups = g :: h :: gs := by
      have hmany : 1 < ip.groups.length := by simp [ip.eight]
      obtain ⟨g, rest, hrest⟩ := List.exists_cons_of_length_pos (Nat.lt_of_succ_lt hmany)
      rw [hrest, List.length_cons] at hmany
      obtain ⟨h, gs, hgs⟩ := List.exists_cons_of_length_pos (Nat.lt_of_succ_lt_succ hmany)
      exact ⟨g, h, gs, by rw [hrest, hgs]⟩
    rw [hgs, writeGroups_cons]
    simp
  · refine ⟨fun c hc => ?_, by simp⟩
    rcases List.mem_append.mp hc with hc | hc
    · rcases List.mem_append.mp hc with hc | hc
      · exact hgroups _ c hc
      · have hcolon : c = ':' := by simpa using hc
        rw [hcolon]
        decide
    · exact hgroups _ c hc

end Ipv6

end ModelGateway.Url
