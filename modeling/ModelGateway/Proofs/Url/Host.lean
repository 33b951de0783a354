/-
Hosts that are addresses.

A version 4 address stands for a host as it is, a version 6 address between square
brackets.  Neither has a character that ends a host or means anything else there, and the
reading of names leaves both alone, so under every scheme what is written as an address is
read as a host that is written the same.  With a port behind it the host still ends where
the address does, and where no port may stand the whole of it is no host at all.
-/
import ModelGateway.Proofs.Result
import ModelGateway.Proofs.Text.Utf8
import ModelGateway.Proofs.Url.Ip
import ModelGateway.Proofs.Url.Percent
import ModelGateway.Url.Parse

namespace ModelGateway

/-! ### Names that need no table -/

namespace Idna

variable {cs : List Char}

/-- A character that a domain name keeps and that begins no label in Punycode. -/
def Settled (c : Char) : Prop := isAscii c = true ∧ c.toLower = c ∧ c ≠ 'x'

instance : DecidablePred Settled := fun _ => inferInstanceAs (Decidable (_ ∧ _ ∧ _))

theorem isPlain_of_settled (h : ∀ c ∈ cs, Settled c) : isPlain cs = true := by
  have hascii : cs.all isAscii = true := List.all_eq_true.mpr fun c hc => (h c hc).1
  have hlabels : ∀ l ∈ Text.splitOn (· == '.') cs, Text.dropLead? acePrefix l = none := by
    intro l hl
    rw [Text.dropLead?_eq_none_iff]
    rintro ⟨rest, hrest⟩
    have hx : 'x' ∈ l := by simp [← hrest, acePrefix]
    exact (h 'x' (Text.mem_splitOn hl hx).1).2.2 rfl
  rw [isPlain, hascii, Bool.true_and, List.all_eq_true]
  intro l hl
  rw [hlabels l hl]
  rfl

/-- A name of settled characters is its own form in ASCII, unless one of them is refused. -/
theorem toAscii?_of_settled (h : ∀ c ∈ cs, Settled c) :
    toAscii? cs = if cs.any isDenied then none else some cs := by
  have hlow : cs.map Char.toLower = cs := by
    conv => rhs; rw [← List.map_id cs]
    exact List.map_congr_left fun c hc => (h c hc).2.1
  simp only [toAscii?, hlow, isPlain_of_settled h, if_true]

end Idna

namespace Url

variable {cs rest : List Char} {c : Char} {kind : Kind} {host : Host} {port : Option UInt16}

theorem percentDecode_of_no_escape (h : '%' ∉ cs) : percentDecode cs = Utf8.encode cs := by
  induction cs with
  | nil => rfl
  | cons c cs ih =>
    rw [List.mem_cons, not_or] at h
    rw [percentDecode, ih h.2]
    · rfl
    · intro a b rest hescape
      exact absurd hescape.symm h.1

theorem decoded_of_no_escape (h : '%' ∉ cs) :
    Utf8.decodeList? (percentDecode cs) = some (String.ofList cs) := by
  rw [percentDecode_of_no_escape h, Utf8.decodeList?_eq_some_iff, String.toList_ofList]

/-- A character that is read in a host as it stands. -/
def Unchanged (c : Char) : Prop := Idna.Settled c ∧ c ≠ '%' ∧ c ≠ '['

instance : DecidablePred Unchanged := fun _ => inferInstanceAs (Decidable (_ ∧ _ ∧ _))

theorem readHost_of_denied (h : ∀ c ∈ cs, Unchanged c) (hdenied : cs.any Idna.isDenied = true) :
    readHost cs = .error .domainName := by
  unfold readHost
  split
  · exact absurd rfl (h '[' (by simp)).2.2
  · rw [decoded_of_no_escape fun hc => (h _ hc).2.1 rfl, Option.bind_some, String.toList_ofList,
      Idna.toAscii?_of_settled fun c hc => (h c hc).1, if_pos hdenied]

/-- A host that looks like a version 4 address is read as one. -/
theorem readHost_of_numeric {ip : Ipv4} (h : ∀ c ∈ cs, Unchanged c)
    (hdenied : cs.any Idna.isDenied = false) (hnumeric : Ipv4.isNumeric cs = true)
    (hread : Ipv4.read? cs = some ip) : readHost cs = .ok (.ipv4 ip) := by
  unfold readHost
  split
  · exact absurd rfl (h '[' (by simp)).2.2
  · rw [decoded_of_no_escape fun hc => (h _ hc).2.1 rfl, Option.bind_some, String.toList_ofList,
      Idna.toAscii?_of_settled fun c hc => (h c hc).1, hdenied]
    cases cs with
    | nil => cases hnumeric
    | cons c rest => simp only [Bool.false_eq_true, if_false, hnumeric, if_true, hread]

/-! ### Addresses -/

/-- A host that is an address. -/
inductive Host.IsAddress : Host → Prop
  | v4 (ip : Ipv4) : IsAddress (.ipv4 ip)
  | v6 (ip : Ipv6) : IsAddress (.ipv6 ip)

theorem toList_write_ipv6 (ip : Ipv6) :
    (Host.ipv6 ip).write.toList = '[' :: (ip.write.toList ++ [']']) := by
  simp [Host.write]

/-- What an address is read as: only a well-known scheme knows those of version 4. -/
def Host.under : Kind → Host → Host
  | .other, .ipv4 ip => .name ip.write
  | _, host => host

@[simp] theorem Host.write_under : (host.under kind).write = host.write := by
  cases kind <;> cases host <;> rfl

theorem Host.under_special (h : kind.isSpecial = true) : host.under kind = host := by
  cases kind with
  | other => cases h
  | wellKnown => rfl
  | file => rfl

theorem Host.under_plain (h : kind.isSpecial = false) : host.under kind = host.under .other := by
  cases kind with
  | other => rfl
  | wellKnown => cases h
  | file => cases h

/-- A port as it is written behind a host. -/
def portText : Option UInt16 → List Char
  | some p => ':' :: Nat.toDigits 10 p.toNat
  | none => []

theorem mem_portText (h : c ∈ portText port) : c ∈ "0123456789:".toList := by
  have hdigit : ∀ c ∈ "0123456789".toList, c ∈ "0123456789:".toList :=
    List.all_iff_forall_prop.mp (by decide)
  cases port with
  | none => simp [portText] at h
  | some p =>
    rcases List.mem_cons.mp h with rfl | h
    · decide
    · exact hdigit c (Text.mem_decimal h)

namespace Host.IsAddress

theorem ne_none (h : host.IsAddress) : host.under kind ≠ .none := by
  cases h <;> cases kind <;> simp [under]

theorem mem_write (h : host.IsAddress) (hc : c ∈ host.write.toList) :
    c ∈ "0123456789abcdef.:[]".toList := by
  have hfour : ∀ c ∈ "0123456789.".toList, c ∈ "0123456789abcdef.:[]".toList :=
    List.all_iff_forall_prop.mp (by decide)
  have hsix : ∀ c ∈ '[' :: ']' :: "0123456789abcdef:".toList, c ∈ "0123456789abcdef.:[]".toList :=
    List.all_iff_forall_prop.mp (by decide)
  cases h with
  | v4 ip => exact hfour c (Ipv4.mem_write hc)
  | v6 ip =>
    refine hsix c ?_
    rw [toList_write_ipv6, List.mem_cons, List.mem_append, List.mem_singleton] at hc
    rcases hc with rfl | hc | rfl
    · decide
    · exact List.mem_cons_of_mem _ (List.mem_cons_of_mem _ (Ipv6.mem_write.1 c hc))
    · decide

/-- An address begins with a digit or a square bracket. -/
theorem write_head (h : host.IsAddress) :
    ∃ c cs, host.write.toList = c :: cs ∧ c.isAlpha = false := by
  have hdigits : ∀ c ∈ "0123456789.".toList, c.isAlpha = false :=
    List.all_iff_forall_prop.mp (by decide)
  cases h with
  | v4 ip =>
    obtain ⟨c, cs, hcs⟩ := List.exists_cons_of_ne_nil ip.write_ne_nil
    exact ⟨c, cs, hcs, hdigits c (Ipv4.mem_write (hcs ▸ List.mem_cons_self))⟩
  | v6 ip => exact ⟨'[', _, toList_write_ipv6 ip, rfl⟩

theorem mem_written (h : host.IsAddress) (hc : c ∈ host.write.toList ++ portText port) :
    c ∈ "0123456789abcdef.:[]".toList := by
  have hport : ∀ c ∈ "0123456789:".toList, c ∈ "0123456789abcdef.:[]".toList :=
    List.all_iff_forall_prop.mp (by decide)
  rcases List.mem_append.mp hc with hc | hc
  · exact h.mem_write hc
  · exact hport c (mem_portText hc)

/-- Under a well-known scheme or `file`, an address is read as itself. -/
theorem readHost (h : host.IsAddress) : readHost host.write.toList = .ok host := by
  cases h with
  | v4 ip =>
    have hchars : ∀ c ∈ "0123456789.".toList, Unchanged c ∧ Idna.isDenied c = false :=
      List.all_iff_forall_prop.mp (by decide)
    have hdenied : ip.write.toList.any Idna.isDenied = false :=
      List.any_eq_false.mpr fun c hc => by simp [(hchars c (Ipv4.mem_write hc)).2]
    exact readHost_of_numeric (fun c hc => (hchars c (Ipv4.mem_write hc)).1) hdenied
      ip.isNumeric_write ip.read?_write
  | v6 ip =>
    rw [toList_write_ipv6, Url.readHost, bracketed, List.getLast?_concat, List.dropLast_concat,
      Ipv6.read?_write]
    rfl

/-- Under any other scheme, an address is read as a host that is written the same. -/
theorem readPlainHost (h : host.IsAddress) :
    readPlainHost host.write.toList = .ok (host.under .other) := by
  cases h with
  | v4 ip =>
    have hchars : ∀ c ∈ "0123456789.".toList, c ≠ '[' ∧ isHostBreaker c = false ∧
        c.toNat < 0x80 ∧ EncodeSet.controls c = false :=
      List.all_iff_forall_prop.mp (by decide)
    have hbreaker : ip.write.toList.any isHostBreaker = false :=
      List.any_eq_false.mpr fun c hc => by simp [(hchars c (Ipv4.mem_write hc)).2.1]
    unfold Url.readPlainHost Host.write
    split
    · next rest hrest =>
      have hmem : '[' ∈ ip.write.toList := hrest ▸ List.mem_cons_self
      exact absurd rfl (hchars '[' (Ipv4.mem_write hmem)).1
    · next hnil => exact absurd hnil ip.write_ne_nil
    · rw [hbreaker, percentEncode_of_keeps fun c hc => (hchars c (Ipv4.mem_write hc)).2.2,
        String.ofList_toList]
      rfl
  | v6 ip =>
    rw [toList_write_ipv6, Url.readPlainHost, bracketed, List.getLast?_concat, List.dropLast_concat,
      Ipv6.read?_write]
    rfl

end Host.IsAddress

/-! ### What a host ends at -/

theorem cutHost_append (h : ∀ c ∈ cs, c ≠ ':' ∧ c ≠ '[') :
    cutHost false (cs ++ rest) = (cs ++ (cutHost false rest).1, (cutHost false rest).2) := by
  induction cs with
  | nil => rfl
  | cons c cs ih =>
    have hc := h c (by simp)
    rw [List.cons_append, cutHost]
    simp [hc.1, hc.2, ih fun x hx => h x (by simp [hx])]

/-- Square brackets hold everything between them together. -/
theorem cutHost_inside (h : ']' ∉ cs) :
    cutHost true (cs ++ ']' :: rest) =
      (cs ++ ']' :: (cutHost false rest).1, (cutHost false rest).2) := by
  induction cs with
  | nil => simp [cutHost]
  | cons c cs ih =>
    rw [List.mem_cons, not_or] at h
    rw [List.cons_append, cutHost]
    simp [Ne.symm h.1, ih h.2]

theorem cutHost_portText : cutHost false (portText port) = ([], portText port) := by
  cases port with
  | none => rfl
  | some p => simp [portText, cutHost]

theorem Host.IsAddress.cutHost (h : host.IsAddress) :
    cutHost false (host.write.toList ++ portText port) = (host.write.toList, portText port) := by
  cases h with
  | v4 ip =>
    have hchars : ∀ c ∈ "0123456789.".toList, c ≠ ':' ∧ c ≠ '[' :=
      List.all_iff_forall_prop.mp (by decide)
    rw [Host.write, cutHost_append fun c hc => hchars c (Ipv4.mem_write hc), cutHost_portText,
      List.append_nil]
  | v6 ip =>
    have hbracket : ']' ∉ ip.write.toList := fun hc =>
      absurd (Ipv6.mem_write.1 _ hc) (by decide)
    rw [toList_write_ipv6, List.cons_append, List.append_assoc, List.singleton_append, Url.cutHost]
    simp [cutHost_inside hbracket, cutHost_portText]

/-! ### Host and port -/

/-- The port that an address keeps. -/
def keptPort (scheme : String) (port : Option UInt16) : Option UInt16 :=
  if defaultPort? scheme = port then none else port

theorem readPort_toDigits (implied : Option UInt16) (p : UInt16) :
    readPort implied (Nat.toDigits 10 p.toNat) =
      .ok (if implied = some p then none else some p, []) := by
  have hdigits : ∀ c ∈ Nat.toDigits 10 p.toNat, Text.isDigit c = true := fun c hc =>
    Text.isDigit_of_mem hc
  have hvalue : ¬ 65535 < p.toNat := by
    have hp := p.toNat_lt
    omega
  simp only [readPort, List.takeWhile_eq_self_iff.mpr hdigits, List.dropWhile_eq_nil_iff.mpr hdigits,
    Text.decimalValue_toDigits, if_neg hvalue, UInt16.ofNat_toNat]
  simp [Nat.toDigits_ne_nil]

/-- An address with a port behind it is read as both. -/
theorem readHostPort_address (h : host.IsAddress) (scheme : String) :
    readHostPort kind scheme (host.write.toList ++ portText port) =
      .ok (host.under kind, keptPort scheme port, []) := by
  have hne : host.write.toList.isEmpty = false := by
    obtain ⟨c, cs, hcs, -⟩ := h.write_head
    rw [hcs]
    rfl
  have hnone : host.under kind ≠ .none := h.ne_none
  cases hspecial : kind.isSpecial with
  | true =>
    rw [Host.under_special hspecial] at hnone ⊢
    simp only [readHostPort, h.cutHost, hspecial, hne, h.readHost, Result.ok_bind, if_true,
      Bool.false_eq_true, if_false]
    cases port with
    | none => simp [portText, keptPort]
    | some p => simp only [portText, if_neg hnone, readPort_toDigits, Result.ok_bind, keptPort]
  | false =>
    rw [Host.under_plain hspecial] at hnone ⊢
    simp only [readHostPort, h.cutHost, hspecial, h.readPlainHost, Result.ok_bind,
      Bool.false_eq_true, if_false]
    cases port with
    | none => simp [portText, keptPort]
    | some p => simp only [portText, if_neg hnone, readPort_toDigits, Result.ok_bind, keptPort]

theorem readAuthority_address (h : host.IsAddress) (scheme : String) (more : Bool) :
    readAuthority kind scheme more (host.write.toList ++ portText port) =
      .ok (⟨"", "", host.under kind, keptPort scheme port⟩, []) := by
  have hat : (host.write.toList ++ portText port).contains '@' = false := by
    rw [List.contains_eq_mem, decide_eq_false_iff_not]
    exact fun hmem => absurd (h.mem_written hmem) (by decide)
  simp only [readAuthority, cutLastAt, hat, Bool.false_eq_true, if_false, readHostPort_address h,
    Result.ok_bind]

/-- Where no port may stand, an address with a port behind it is no host. -/
theorem readHost_address_port (h : host.IsAddress) (p : UInt16) :
    ∃ e, readHost (host.write.toList ++ portText (some p)) = .error e := by
  cases h with
  | v4 ip =>
    have hchars : ∀ c ∈ "0123456789.:".toList, Unchanged c :=
      List.all_iff_forall_prop.mp (by decide)
    have hfour : ∀ c ∈ "0123456789.".toList, c ∈ "0123456789.:".toList :=
      List.all_iff_forall_prop.mp (by decide)
    have hport : ∀ c ∈ "0123456789:".toList, c ∈ "0123456789.:".toList :=
      List.all_iff_forall_prop.mp (by decide)
    have hdenied : (ip.write.toList ++ portText (some p)).any Idna.isDenied = true :=
      List.any_eq_true.mpr ⟨':', by simp [portText], by decide⟩
    refine ⟨.domainName, readHost_of_denied (fun c hc => ?_) hdenied⟩
    rcases List.mem_append.mp hc with hc | hc
    · exact hchars c (hfour c (Ipv4.mem_write hc))
    · exact hchars c (hport c (mem_portText hc))
  | v6 ip =>
    obtain ⟨front, last, hdigits⟩ :=
      (List.eq_nil_or_concat (Nat.toDigits 10 p.toNat)).resolve_left Nat.toDigits_ne_nil
    have hlast : last ≠ ']' := by
      intro hbracket
      have hdigit : Text.isDigit ']' = true :=
        Text.isDigit_of_mem (n := p.toNat) (by simp [hdigits, hbracket])
      cases hdigit
    have hsplit : (Host.ipv6 ip).write.toList ++ portText (some p) =
        '[' :: ((ip.write.toList ++ ']' :: ':' :: front) ++ [last]) := by
      simp [toList_write_ipv6, portText, hdigits]
    refine ⟨.ipv6, ?_⟩
    rw [hsplit, Url.readHost, bracketed, List.getLast?_concat, if_neg]
    exact fun hsome => hlast (Option.some.inj hsome)

end Url

end ModelGateway
