/-
How a text is read that was put together from parts.

A text that is a scheme, an address with or without a port and a path is cut again at the
places where its parts met.  What surrounds an address is dropped at the two ends only, and
neither end reaches the middle; query and fragment start in the path, since nothing before
it has their marks; and the path starts at the first slash behind the host.  What comes
before the first colon is the scheme, so the parts stay apart as long as no colon is
smuggled into it.
-/
import ModelGateway.Proofs.Text.Trim
import ModelGateway.Proofs.Url.Host
import ModelGateway.Proofs.Url.Path

namespace ModelGateway.Url

variable {cs lead front tail path rest name : List Char} {scheme : String} {kind : Kind}
  {more : Bool} {host : Host} {port : Option UInt16}

/-! ### Schemes -/

theorem toLower_range {c : Char} (h : c.isUpper = true) :
    c.toLower.val ≥ 'a'.val ∧ c.toLower.val ≤ 'z'.val := by
  have hrange : c.val ≥ 'A'.val ∧ c.val ≤ 'Z'.val := of_decide_eq_true h
  have hlower : c.toLower.val = c.val + ('a'.val - 'A'.val) := congrArg Char.val (dif_pos hrange)
  rw [hlower]
  simp [UInt32.le_iff_toNat_le] at hrange ⊢
  omega

theorem isLower_toLower {c : Char} (h : c.isUpper = true) : c.toLower.isLower = true := by
  obtain ⟨hlow, hhigh⟩ := toLower_range h
  exact Bool.and_eq_true_iff.mpr ⟨decide_eq_true hlow, decide_eq_true hhigh⟩

theorem toLower_of_not_upper {c : Char} (h : ¬ c.isUpper = true) : c.toLower = c :=
  dif_neg fun hrange => h (decide_eq_true hrange)

theorem toLower_toLower (c : Char) : c.toLower.toLower = c.toLower := by
  by_cases h : c.isUpper = true
  · refine toLower_of_not_upper fun hupper => ?_
    have hupper : c.toLower.val ≥ 'A'.val ∧ c.toLower.val ≤ 'Z'.val := of_decide_eq_true hupper
    have hlower := toLower_range h
    simp only [ge_iff_le, UInt32.le_iff_toNat_le] at hlower hupper
    exact absurd (Nat.le_trans hlower.1 hupper.2) (by decide)
  · rw [toLower_of_not_upper h, toLower_of_not_upper h]

/-- In lower case a character is what it was, or a letter. -/
theorem toLower_cases (c : Char) : c.toLower = c ∨ c.toLower.isAlpha = true := by
  by_cases h : c.isUpper = true
  · refine Or.inr ?_
    show (c.toLower.isUpper || c.toLower.isLower) = true
    rw [isLower_toLower h, Bool.or_true]
  · exact Or.inl (toLower_of_not_upper h)

/-- A letter, and behind it letters, digits, plus signs, hyphens and full stops. -/
def IsSchemeName (cs : List Char) : Prop :=
  (∃ c ∈ cs.head?, c.isAlpha = true) ∧
    ∀ c ∈ cs, (c.isAlphanum || ['+', '-', '.'].contains c) = true

theorem IsSchemeName.ne_colon (h : IsSchemeName cs) : ∀ c ∈ cs, (c == ':') = false := by
  intro c hc
  rw [beq_eq_false_iff_ne]
  rintro rfl
  exact absurd (h.2 ':' hc) (by decide)

/-- A scheme is what comes before the first colon, in lower case. -/
theorem readScheme_eq_some_iff : readScheme cs = some (name, rest) ↔
    ∃ raw, cs = raw ++ ':' :: rest ∧ IsSchemeName raw ∧ name = raw.map Char.toLower := by
  constructor
  · intro h
    cases cs with
    | nil => cases h
    | cons c cs =>
      simp only [readScheme] at h
      split at h
      · cases h
      · next hletter =>
        split at h
        · next raw rest' hcut =>
          split at h
          · next hall =>
            obtain ⟨rfl, rfl⟩ := Prod.mk.inj (Option.some.inj h)
            obtain ⟨colon, htext, hcolon, -⟩ := Text.cutAt_eq_some_iff.mp hcut
            rw [eq_of_beq hcolon] at htext
            refine ⟨raw, htext, ⟨?_, List.all_eq_true.mp hall⟩, rfl⟩
            cases raw with
            | nil =>
              rw [(List.cons.inj htext).1] at hletter
              exact absurd rfl hletter
            | cons x raw =>
              rw [(List.cons.inj htext).1] at hletter
              exact ⟨x, rfl, by simpa using hletter⟩
          · cases h
        · cases h
  · rintro ⟨raw, rfl, hraw, rfl⟩
    have hcut : Text.cutAt (· == ':') (raw ++ ':' :: rest) = some (raw, rest) :=
      Text.cutAt_eq_some_iff.mpr ⟨':', rfl, by simp, hraw.ne_colon⟩
    obtain ⟨⟨c, hc, hletter⟩, hall⟩ := hraw
    cases raw with
    | nil => cases hc
    | cons x raw =>
      obtain rfl : x = c := Option.some.inj hc
      rw [List.cons_append] at hcut ⊢
      simp only [readScheme, hletter, hcut, Bool.not_true, Bool.false_eq_true, if_false]
      rw [if_pos (List.all_eq_true.mpr hall)]

theorem IsSchemeName.lower (h : IsSchemeName cs) : IsSchemeName (cs.map Char.toLower) := by
  obtain ⟨⟨c, hc, hletter⟩, hall⟩ := h
  refine ⟨⟨c.toLower, by simp [Option.mem_def.mp hc], ?_⟩, fun x hx => ?_⟩
  · rcases toLower_cases c with hsame | hlower
    · rw [hsame, hletter]
    · exact hlower
  · obtain ⟨y, hy, rfl⟩ := List.mem_map.mp hx
    rcases toLower_cases y with hsame | hlower
    · rw [hsame]
      exact hall y hy
    · rw [Char.isAlphanum, hlower]
      rfl

/-! ### What is kept of the parts -/

/-- Nothing, or a slash and what follows it. -/
def Rooted (cs : List Char) : Prop := ∀ c ∈ cs.head?, c = '/'

theorem Rooted.of_prefix (h : Rooted tail) (hpre : rest <+: tail) : Rooted rest := by
  obtain ⟨more, rfl⟩ := hpre
  cases rest with
  | nil => simp [Rooted]
  | cons c rest => exact h

/-- A character that is no blank, no control and begins neither query nor fragment. -/
def Firm (c : Char) : Prop := isPadding c = false ∧ c ≠ '#' ∧ c ≠ '?'

instance : DecidablePred Firm := fun _ => inferInstanceAs (Decidable (_ ∧ _ ∧ _))

theorem unwrap_of_firm (h : ∀ c ∈ cs, Firm c) : unwrap cs = cs := by
  refine List.filter_eq_self.mpr fun c hc => ?_
  have hpad : isPadding c = false := (h c hc).1
  cases hbreak : isLineBreak c with
  | false => rfl
  | true => rcases lineBreak_cases hbreak with rfl | rfl | rfl <;> cases hpad

/-- What surrounds a text is dropped at its ends, and the middle stays. -/
theorem unwrap_strip (hfront : ∀ c ∈ front, Firm c) (hne : front ≠ []) (htail : Rooted tail) :
    ∃ rest, Rooted rest ∧ unwrap (Text.stripWhile isPadding (lead ++ (front ++ tail))) =
      unwrap (lead.dropWhile isPadding) ++ (front ++ rest) := by
  have hmiddle : ∀ x ∈ (lead.dropWhile isPadding ++ front).getLast?, isPadding x = false := by
    intro x hx
    rw [List.getLast?_append_of_ne_nil _ hne] at hx
    exact (hfront x (List.mem_of_mem_getLast? hx)).1
  have hstart : (lead ++ (front ++ tail)).dropWhile isPadding =
      lead.dropWhile isPadding ++ (front ++ tail) := by
    rw [List.dropWhile_append]
    split
    · next hnil =>
      rw [List.isEmpty_iff.mp hnil, List.nil_append, Text.dropWhile_of_head]
      intro x hx
      rw [List.head?_append_of_ne_nil _ hne] at hx
      exact (hfront x (List.mem_of_mem_head? hx)).1
    · rfl
  refine ⟨unwrap (Text.dropEndWhile isPadding tail), ?_, ?_⟩
  · have hpre : Text.dropEndWhile isPadding tail <+: tail := List.rdropWhile_prefix isPadding tail
    have hrooted := htail.of_prefix hpre
    intro c hc
    cases hkept : Text.dropEndWhile isPadding tail with
    | nil => simp [hkept, unwrap] at hc
    | cons x rest =>
      rw [hkept] at hrooted hc
      obtain rfl : x = '/' := hrooted x rfl
      rw [unwrap, List.filter_cons_of_pos (by decide)] at hc
      exact (Option.some.inj hc).symm
  · rw [Text.stripWhile, hstart, ← List.append_assoc, Text.dropEndWhile_append hmiddle]
    rw [unwrap, List.filter_append, List.filter_append, ← unwrap, ← unwrap, ← unwrap,
      unwrap_of_firm hfront, List.append_assoc]

theorem cutOff_append {stop : Char} (hfront : stop ∉ front) (htail : Rooted tail) :
    ∃ rest after, Rooted rest ∧ cutOff stop (front ++ tail) = (front ++ rest, after) := by
  have hnone : ∀ x ∈ front, (x == stop) = false := fun x hx =>
    beq_eq_false_iff_ne.mpr fun hstop => hfront (hstop ▸ hx)
  rw [cutOff, Text.cutAt_append hnone]
  cases hcut : Text.cutAt (· == stop) tail with
  | none => exact ⟨tail, none, htail, rfl⟩
  | some parts =>
    obtain ⟨before, after⟩ := parts
    obtain ⟨mark, htext, -, -⟩ := Text.cutAt_eq_some_iff.mp hcut
    exact ⟨before, some after, htail.of_prefix ⟨_, htext.symm⟩, rfl⟩

/-! ### Host, port and path -/

theorem isSlash_of_written (h : host.IsAddress) {c : Char}
    (hc : c ∈ host.write.toList ++ portText port) : isSlash kind c = false := by
  have hall : ∀ c ∈ "0123456789abcdef.:[]".toList, isSlash .file c = false :=
    List.all_iff_forall_prop.mp (by decide)
  have hslash := hall c (h.mem_written hc)
  cases kind with
  | other =>
    have hplain : (c == '/') = false := (Bool.or_eq_false_iff.mp hslash).1
    simp [isSlash, hplain, Kind.isSpecial]
  | wellKnown => exact hslash
  | file => exact hslash

/-- Host and port end at the first slash. -/
theorem takeWhile_written (hfront : ∀ c ∈ front, isSlash kind c = false) (hpath : Rooted path) :
    (front ++ path).takeWhile (fun c => !isSlash kind c) = front := by
  rw [List.takeWhile_append_of_pos fun c hc => by rw [hfront c hc]; rfl]
  cases path with
  | nil => exact List.append_nil front
  | cons c path =>
    obtain rfl : c = '/' := hpath c rfl
    simp [isSlash]

/-- Behind two slashes, an address is the host, and the path starts where the port ends. -/
theorem readHierarchy_address (h : host.IsAddress) (hkind : kind ≠ .file) (hpath : Rooted path) :
    readHierarchy kind scheme more ('/' :: '/' :: (host.write.toList ++ portText port ++ path)) =
      .ok (some ⟨"", "", host.under kind, keptPort scheme port⟩,
        .segments (segmentsOf kind path)) := by
  have htake : ∀ {kind : Kind}, (host.write.toList ++ portText port ++ path).takeWhile
      (fun c => !isSlash kind c) = host.write.toList ++ portText port :=
    takeWhile_written (fun c hc => isSlash_of_written h hc) hpath
  cases kind with
  | file => exact absurd rfl hkind
  | other =>
    simp only [readHierarchy, htake, List.drop_left, readAuthority_address h, Result.ok_bind,
      List.nil_append]
  | wellKnown =>
    have hstart : ('/' :: '/' :: (host.write.toList ++ portText port ++ path)).dropWhile
        (isSlash .wellKnown) = host.write.toList ++ portText port ++ path := by
      obtain ⟨c, cs, hcs, -⟩ := h.write_head
      have hmem : c ∈ host.write.toList ++ portText port := by simp [hcs]
      have hc : isSlash .wellKnown c = false := isSlash_of_written h hmem
      rw [List.dropWhile_cons_of_pos rfl, List.dropWhile_cons_of_pos rfl, hcs, List.cons_append,
        List.cons_append, List.dropWhile_cons_of_neg (by simp [hc])]
    simp only [readHierarchy, hstart, htake, List.drop_left, readAuthority_address h, Result.ok_bind,
      List.nil_append]

/-- Whether a path begins with a drive letter under `file`. -/
def startsAtDrive (path : List Char) : Bool :=
  (walked .file path).head?.any fun s => isDriveLetter s.toList

/-- A path that begins with a drive letter does so when it is kept. -/
theorem segmentsOf_drive (h : startsAtDrive path = true) :
    ∃ s rest, segmentsOf .file path = s :: rest ∧ isDriveLetter s.toList = true := by
  unfold startsAtDrive at h
  cases hwalked : walked .file path with
  | nil =>
    rw [hwalked] at h
    cases h
  | cons s rest =>
    rw [hwalked] at h
    have hdrive : isDriveLetter s.toList = true := h
    have hkept : (s == "") = false := by
      rw [beq_eq_false_iff_ne]
      rintro rfl
      cases hdrive
    exact ⟨s, rest, by simp [segmentsOf, hwalked, dropEmptyFront, hkept], hdrive⟩

/-- Under `file`, an address is the only host that its text gives: a port behind it is an error. -/
theorem readFileHost_address (h : host.IsAddress) {host' : Host}
    (hread : readFileHost (host.write.toList ++ portText port) = .ok host') : host' = host := by
  obtain ⟨c, cs, hcs, -⟩ := h.write_head
  have hne : (host.write.toList ++ portText port).isEmpty = false := by
    rw [hcs]
    rfl
  simp only [readFileHost, hne, Bool.false_eq_true, if_false] at hread
  cases port with
  | none =>
    rw [portText, List.append_nil, h.readHost] at hread
    cases h <;> exact (Except.ok.inj hread).symm
  | some p =>
    obtain ⟨e, herror⟩ := readHost_address_port h p
    rw [herror] at hread
    cases hread

/-- Under `file`, an address is the host, unless the path is one on a drive. -/
theorem readFile_address (h : host.IsAddress) (hpath : Rooted path) {found : Host × List String}
    (hread : readFile ('/' :: '/' :: (host.write.toList ++ portText port ++ path)) = .ok found) :
    found = (if startsAtDrive path then .none else host, segmentsOf .file path) := by
  have htake : (host.write.toList ++ portText port ++ path).takeWhile
      (fun c => !isSlash .file c) = host.write.toList ++ portText port :=
    takeWhile_written (fun c hc => isSlash_of_written h hc) hpath
  have hdrive : isDriveLetter (host.write.toList ++ portText port) = false := by
    obtain ⟨c, cs, hcs, hletter⟩ := h.write_head
    rw [hcs, List.cons_append]
    unfold isDriveLetter
    split
    · next a b hab => simp [← (List.cons.inj hab).1, hletter]
    · rfl
  have hslash : (isSlash .file '/' && isSlash .file '/') = true := rfl
  simp only [readFile, hslash, htake, hdrive, List.drop_left, if_true, Bool.false_eq_true,
    if_false] at hread
  obtain ⟨host', hhost, hread⟩ := Result.bind_eq_ok.mp hread
  rw [readFileHost_address h hhost] at hread
  exact (Except.ok.inj hread).symm

theorem readHierarchy_file (h : host.IsAddress) (hpath : Rooted path)
    {authority : Option Authority} {p : Path}
    (hread : readHierarchy .file scheme more
      ('/' :: '/' :: (host.write.toList ++ portText port ++ path)) = .ok (authority, p)) :
    authority = some ⟨"", "", if startsAtDrive path then .none else host, none⟩ ∧
      p = .segments (segmentsOf .file path) := by
  obtain ⟨found, hfound, hread⟩ := Result.bind_eq_ok.mp hread
  obtain rfl := readFile_address h hpath hfound
  obtain ⟨hauthority, hp⟩ := Prod.mk.inj (Except.ok.inj hread)
  exact ⟨hauthority.symm, hp.symm⟩

/-! ### The whole text -/

theorem scheme_of_file {u : Url} (h : u.kind = .file) : u.scheme = "file" := by
  unfold Url.kind Kind.ofScheme at h
  split at h
  · assumption
  · split at h <;> cases h

/-- What an address is read from begins with its scheme. -/
theorem parse_scheme {text : String} {u : Url} (h : parse text = .ok u) :
    ∃ raw rest, unwrap (Text.stripWhile isPadding text.toList) = raw ++ ':' :: rest ∧
      IsSchemeName raw ∧ u.scheme = String.ofList (raw.map Char.toLower) := by
  unfold parse at h
  split at h
  · cases h
  · next name rest hscheme =>
    obtain ⟨raw, htext, hraw, hname⟩ := readScheme_eq_some_iff.mp hscheme
    obtain ⟨⟨authority, path⟩, -, h⟩ := Result.bind_eq_ok.mp h
    have hu : String.ofList name = u.scheme := congrArg Url.scheme (Except.ok.inj h)
    exact ⟨raw, rest, htext, hraw, by rw [← hu, hname]⟩

/-- Behind a scheme, what begins neither fragment nor query goes with the path to be read. -/
theorem parse_cut {text : String} {raw : List Char}
    (htext : unwrap (Text.stripWhile isPadding text.toList) = raw ++ ':' :: (front ++ tail))
    (hraw : IsSchemeName raw) (hfront : ∀ c ∈ front, Firm c) (htail : Rooted tail) :
    let scheme := String.ofList (raw.map Char.toLower)
    ∃ more path query fragment, Rooted path ∧ parse text = (do
      let (authority, path) ← readHierarchy (Kind.ofScheme scheme) scheme more (front ++ path)
      .ok ⟨scheme, authority, path, query, fragment⟩) := by
  intro scheme
  have hscheme : readScheme (unwrap (Text.stripWhile isPadding text.toList)) =
      some (raw.map Char.toLower, front ++ tail) :=
    readScheme_eq_some_iff.mpr ⟨raw, htext, hraw, rfl⟩
  obtain ⟨kept, fragment, hkept, hfragment⟩ :
      ∃ kept fragment, Rooted kept ∧ cutOff '#' (front ++ tail) = (front ++ kept, fragment) :=
    cutOff_append (fun hc => (hfront _ hc).2.1 rfl) htail
  obtain ⟨path, query, hpath, hquery⟩ :
      ∃ path query, Rooted path ∧ cutOff '?' (front ++ kept) = (front ++ path, query) :=
    cutOff_append (fun hc => (hfront _ hc).2.2 rfl) hkept
  refine ⟨query.isSome || fragment.isSome, path, query.map (encodeQuery (Kind.ofScheme scheme)),
    fragment.map encodeFragment, hpath, ?_⟩
  simp only [parse, hscheme, hfragment, hquery]
  rfl

/-- Without a colon before its own, a scheme is followed by what was put behind it. -/
theorem parse_parts {u : Url} (hlead : ':' ∉ lead) (hfront : ∀ c ∈ front, Firm c)
    (htail : Rooted tail)
    (hread : parse (String.ofList (lead ++ (':' :: front ++ tail))) = .ok u) :
    u.scheme = String.ofList ((unwrap (lead.dropWhile isPadding)).map Char.toLower) ∧
      ∃ more path, Rooted path ∧
        readHierarchy u.kind u.scheme more (front ++ path) = .ok (u.authority, u.path) := by
  have hmiddle : ∀ c ∈ ':' :: front, Firm c := List.forall_mem_cons.mpr ⟨by decide, hfront⟩
  obtain ⟨kept, hkept, hstrip⟩ : ∃ kept, Rooted kept ∧
      unwrap (Text.stripWhile isPadding (lead ++ (':' :: front ++ tail))) =
        unwrap (lead.dropWhile isPadding) ++ (':' :: front ++ kept) :=
    unwrap_strip hmiddle (List.cons_ne_nil _ _) htail
  have hcolon : ∀ c ∈ unwrap (lead.dropWhile isPadding), (c == ':') = false := by
    intro c hc
    have hmem : c ∈ lead := (List.dropWhile_sublist _).subset (List.mem_of_mem_filter hc)
    exact beq_eq_false_iff_ne.mpr fun hc => hlead (hc ▸ hmem)
  rw [← String.toList_ofList (l := lead ++ _)] at hstrip
  obtain ⟨raw, rest, htext, hraw, -⟩ := parse_scheme hread
  -- the text has one first colon, so the scheme and what follows it are the parts
  have hfound : Text.cutAt (· == ':') (raw ++ ':' :: rest) = some (raw, rest) :=
    Text.cutAt_eq_some_iff.mpr ⟨':', rfl, by simp, hraw.ne_colon⟩
  have hput : Text.cutAt (· == ':') (raw ++ ':' :: rest) =
      some (unwrap (lead.dropWhile isPadding), front ++ kept) :=
    Text.cutAt_eq_some_iff.mpr ⟨':', htext.symm.trans hstrip, by simp, hcolon⟩
  obtain ⟨rfl, -⟩ := Prod.mk.inj (Option.some.inj (hfound.symm.trans hput))
  obtain ⟨more, path, query, fragment, hpath, hparse⟩ := parse_cut hstrip hraw hfront hkept
  obtain ⟨⟨authority, p⟩, hhierarchy, hu⟩ := Result.bind_eq_ok.mp (hparse.symm.trans hread)
  obtain rfl := Except.ok.inj hu
  exact ⟨rfl, more, path, hpath, hhierarchy⟩

/-- A scheme name is read as it is, up to the case of its letters. -/
theorem IsSchemeName.unwrap_eq (h : IsSchemeName lead) :
    unwrap (lead.dropWhile isPadding) = lead := by
  have hlow : ∀ n ≤ 0x20, (Char.ofNat n).isAlphanum = false ∧
      ['+', '-', '.'].contains (Char.ofNat n) = false := by decide
  have hfirm : ∀ c ∈ lead, Firm c := by
    intro c hc
    have hname := h.2 c hc
    refine ⟨?_, ?_, ?_⟩
    · by_contra hpad
      rw [Bool.not_eq_false, isPadding, decide_eq_true_eq] at hpad
      have hnone := hlow c.toNat hpad
      rw [Char.ofNat_toNat] at hnone
      rw [hnone.1, hnone.2] at hname
      cases hname
    · rintro rfl
      cases hname
    · rintro rfl
      cases hname
  rw [Text.dropWhile_of_head fun c hc => (hfirm c (List.mem_of_mem_head? hc)).1,
    unwrap_of_firm hfirm]

/-- Nothing of an address with a port behind it is dropped or begins query or fragment. -/
theorem Host.IsAddress.firm (h : host.IsAddress) :
    ∀ c ∈ '/' :: '/' :: (host.write.toList ++ portText port), Firm c := by
  have hwritten : ∀ c ∈ "0123456789abcdef.:[]".toList, Firm c :=
    List.all_iff_forall_prop.mp (by decide)
  refine List.forall_mem_cons.mpr ⟨by decide, List.forall_mem_cons.mpr ⟨by decide, ?_⟩⟩
  exact fun c hc => hwritten c (h.mem_written hc)

/-- An address behind a scheme other than `file` is always read, whatever path follows it. -/
theorem parse_address (hname : IsSchemeName lead) (h : host.IsAddress) (htail : Rooted tail)
    (hkind : Kind.ofScheme (String.ofList (lead.map Char.toLower)) ≠ .file) :
    ∃ u, parse (String.ofList (lead ++
        (':' :: ('/' :: '/' :: (host.write.toList ++ portText port)) ++ tail))) = .ok u ∧
      u.scheme = String.ofList (lead.map Char.toLower) ∧
      u.authority = some ⟨"", "", host.under u.kind, keptPort u.scheme port⟩ := by
  obtain ⟨kept, hkept, hstrip⟩ : ∃ kept, Rooted kept ∧
      unwrap (Text.stripWhile isPadding
        (lead ++ (':' :: ('/' :: '/' :: (host.write.toList ++ portText port)) ++ tail))) =
        unwrap (lead.dropWhile isPadding) ++
          (':' :: ('/' :: '/' :: (host.write.toList ++ portText port)) ++ kept) :=
    unwrap_strip (List.forall_mem_cons.mpr ⟨by decide, h.firm⟩) (List.cons_ne_nil _ _) htail
  rw [hname.unwrap_eq, ← String.toList_ofList (l := lead ++ _)] at hstrip
  obtain ⟨more, path, query, fragment, hpath, hparse⟩ := parse_cut hstrip hname h.firm hkept
  let scheme := String.ofList (lead.map Char.toLower)
  let kind := Kind.ofScheme scheme
  refine ⟨⟨scheme, some ⟨"", "", host.under kind, keptPort scheme port⟩,
    .segments (segmentsOf kind path), query, fragment⟩, hparse.trans ?_, rfl, rfl⟩
  rw [List.cons_append, List.cons_append, readHierarchy_address h hkind hpath]
  rfl

/-- Whether a port is kept or implied, it is the one that is called. -/
theorem keptPort_or : (keptPort scheme port).or (defaultPort? scheme) =
    port.or (defaultPort? scheme) := by
  unfold keptPort
  by_cases himplied : defaultPort? scheme = port
  · rw [if_pos himplied, himplied]
    cases port <;> rfl
  · rw [if_neg himplied]

end ModelGateway.Url
