/-
Which credentials that were issued are recognised.

Issuing writes the mark before a token, and checking takes blanks and the scheme off before
it looks for the mark.  A token has no blank in it, so all that can get lost is part of the
mark: its blanks at the front, or all of it up to the first space if that spells the scheme.
Then what is left no longer begins with the mark.  For blanks this shows at its first
character; for the scheme it shows in the number of spaces, of which the mark has one more
than what is left.
-/
import ModelGateway.CommandLine.Keys
import ModelGateway.Proofs.Credential.Gate
import ModelGateway.Proofs.Credential.Token
import ModelGateway.Proofs.Url.Reading

namespace ModelGateway

/-! ### What is minted -/

namespace TokenCipher

variable {c : TokenCipher} {nonce : Nonce} {identity : String}

theorem mint_no_blank : ∀ ch ∈ (c.mint nonce identity).toList, Text.isBlank ch = false := by
  intro ch hch
  rw [mint, Base64.encode, String.toList_ofList] at hch
  exact Base64.not_blank_of_mem_write hch

/-- What is minted opens as the identity it was minted for. -/
theorem identity?_mint : c.identity? (c.mint nonce identity) = some identity := by
  refine identity?_eq_some_iff.mpr ⟨nonce, ?_⟩
  rw [mint, Base64.trim_encode, Base64.decode_encode, sealed]

/-- A token is never empty, since no nonce is. -/
theorem mint_ne_nil : (c.mint nonce identity).toList ≠ [] := by
  intro hnil
  have hopen : c.identity? (c.mint nonce identity) = some identity := identity?_mint
  have hnone : c.identity? "" = none := rfl
  rw [String.toList_eq_nil_iff.mp hnil, hnone] at hopen
  cases hopen

end TokenCipher

/-! ### What is left of the mark -/

variable {mark token credential : List Char} {text : String}

/-- A mark that begins, in whatever case, with the scheme and the space behind it. -/
theorem names_scheme_iff : "bearer ".toList <+: mark.map Char.toLower ↔
    ∃ scheme rest, mark = scheme ++ ' ' :: rest ∧ NamesBearer scheme := by
  constructor
  · intro h
    obtain ⟨lowered, hlowered⟩ := h
    have hparts : mark.map Char.toLower = "bearer".toList ++ ' ' :: lowered := hlowered.symm
    obtain ⟨scheme, behind, rfl, hscheme, hbehind⟩ := List.map_eq_append_iff.mp hparts
    obtain ⟨space, rest, rfl, hspace, -⟩ := List.map_eq_cons_iff.mp hbehind
    have hlower : space = ' ' := by
      rcases Url.toLower_cases space with hsame | halpha
      · exact hsame.symm.trans hspace
      · rw [hspace] at halpha
        exact absurd halpha (by decide)
    exact ⟨scheme, rest, by rw [hlower], hscheme⟩
  · intro h
    obtain ⟨scheme, rest, rfl, hscheme⟩ := h
    refine ⟨rest.map Char.toLower, ?_⟩
    rw [List.map_append, hscheme]
    rfl

/-- What is presented does not begin with a blank. -/
theorem Presents.head_not_blank (h : Presents text.toList credential) :
    ∀ c ∈ credential.head?, Text.isBlank c = false := by
  cases h with
  | bare trimmed plain => exact trimmed.starts
  | schemed trimmed parts named blank starts => exact starts

/-- A mark that begins with a blank is never found again. -/
theorem not_prefix_of_blank (hblank : ∃ c ∈ mark.head?, Text.isBlank c = true)
    (hcredential : ∀ c ∈ credential.head?, Text.isBlank c = false) : ¬ mark <+: credential := by
  intro hlead
  obtain ⟨rest, rfl⟩ := hlead
  obtain ⟨c, hc, hblank⟩ := hblank
  have hkept := hcredential c (List.mem_head?_append_of_mem_head? hc)
  rw [hblank] at hkept
  cases hkept

/-- A mark and a token without blanks, cut at a space, is a mark cut at a space. -/
theorem eq_append_of_cut {a b : List Char} (htoken : ∀ c ∈ token, Text.isBlank c = false)
    (h : mark ++ token = a ++ ' ' :: b) : ∃ rest, mark = a ++ ' ' :: rest := by
  rcases List.append_eq_append_iff.mp h with ⟨c, ha, htok⟩ | ⟨c, hmark, hcut⟩
  · have hspace : ' ' ∈ token := by
      rw [htok]
      simp
    exact absurd (htoken ' ' hspace) (by decide)
  · cases c with
    | nil =>
      have hspace : ' ' ∈ token := by
        rw [← List.nil_append token, ← hcut]
        simp
      exact absurd (htoken ' ' hspace) (by decide)
    | cons x rest =>
      obtain ⟨rfl, -⟩ := List.cons.inj hcut
      exact ⟨rest, hmark⟩

/-- Nor is one that begins with the scheme, once the scheme was taken off: what is left has fewer
spaces than the mark. -/
theorem not_prefix_of_scheme {scheme rest : List Char} (hmark : mark = scheme ++ ' ' :: rest)
    (htoken : ∀ c ∈ token, Text.isBlank c = false) :
    ¬ mark <+: (rest ++ token).dropWhile Text.isBlank := by
  intro hlead
  have hnone : token.count ' ' = 0 := by
    refine List.count_eq_zero.mpr fun hspace => ?_
    exact absurd (htoken ' ' hspace) (by decide)
  have hmost : mark.count ' ' ≤ (rest ++ token).count ' ' :=
    (hlead.sublist.trans (List.dropWhile_sublist _)).count_le ' '
  rw [hmark, List.count_append, List.count_append, List.count_cons_self, hnone] at hmost
  omega

/-! ### What is presented -/

/-- What is issued ends with a token, so it ends with no blank. -/
theorem last_not_blank {before : List Char} (hne : token ≠ [])
    (htoken : ∀ c ∈ token, Text.isBlank c = false) :
    ∀ c ∈ (before ++ token).getLast?, Text.isBlank c = false := by
  intro c hc
  rw [List.getLast?_append_of_ne_nil _ hne] at hc
  exact htoken c (List.mem_of_getLast? hc)

/-- Behind the scheme, only the blanks at the front of the mark get lost. -/
theorem presents_behind_scheme (hne : token ≠ [])
    (htoken : ∀ c ∈ token, Text.isBlank c = false) :
    Presents ("Bearer ".toList ++ (mark ++ token)) ((mark ++ token).dropWhile Text.isBlank) := by
  have hcore : Text.Trimmed ("Bearer ".toList ++ (mark ++ token))
      ("Bearer ".toList ++ (mark ++ token)) := by
    refine Text.trimmed_self (fun c hc => ?_) ?_
    · obtain rfl : c = 'B' := by simpa [eq_comm] using hc
      decide
    · rw [← List.append_assoc]
      exact last_not_blank hne htoken
  have hparts : "Bearer ".toList ++ (mark ++ token) = "Bearer".toList ++ ' ' ::
      ((mark ++ token).takeWhile Text.isBlank ++ (mark ++ token).dropWhile Text.isBlank) := by
    rw [List.takeWhile_append_dropWhile]
    rfl
  exact .schemed hcore hparts (by unfold NamesBearer; decide)
    (fun _ hc => List.mem_takeWhile_imp hc) fun _ hc => Text.kept_of_head_dropWhile hc

/-- Bare, the same gets lost, unless what is left then names the scheme. -/
theorem trimmed_bare (hne : token ≠ []) (htoken : ∀ c ∈ token, Text.isBlank c = false)
    (hfirm : ∀ c ∈ mark.head?, Text.isBlank c = false) :
    Text.Trimmed (mark ++ token) (mark ++ token) := by
  refine Text.trimmed_self (fun c hc => ?_) (last_not_blank hne htoken)
  cases mark with
  | nil => exact htoken c (List.mem_of_mem_head? hc)
  | cons x mark => exact hfirm c hc

/-- What is issued with a mark that begins with no blank is found again behind the scheme; bare,
it is found again unless the mark names the scheme. -/
theorem presents_bare (hne : token ≠ []) (htoken : ∀ c ∈ token, Text.isBlank c = false)
    (hfirm : ∀ c ∈ mark.head?, Text.isBlank c = false)
    (hother : ¬ "bearer ".toList <+: mark.map Char.toLower) :
    Presents (mark ++ token) (mark ++ token) := by
  refine .bare (trimmed_bare hne htoken hfirm) fun scheme rest hcut hscheme => hother ?_
  obtain ⟨behind, hmark⟩ := eq_append_of_cut htoken hcut
  exact names_scheme_iff.mpr ⟨scheme, behind, hmark, hscheme⟩

/-- Bare, a mark that names the scheme gets lost. -/
theorem not_prefix_of_bare {presented : List Char} (hne : token ≠ [])
    (htoken : ∀ c ∈ token, Text.isBlank c = false)
    (hfirm : ∀ c ∈ mark.head?, Text.isBlank c = false)
    (hscheme : "bearer ".toList <+: mark.map Char.toLower) (htext : text.toList = mark ++ token)
    (h : Presents text.toList presented) : ¬ mark <+: presented := by
  obtain ⟨scheme, rest, hmark, hnamed⟩ := names_scheme_iff.mp hscheme
  have hparts : mark ++ token = scheme ++ ' ' ::
      ((rest ++ token).takeWhile Text.isBlank ++ (rest ++ token).dropWhile Text.isBlank) := by
    rw [List.takeWhile_append_dropWhile, hmark, List.append_assoc]
    rfl
  have hpresents : Presents text.toList ((rest ++ token).dropWhile Text.isBlank) := by
    rw [htext]
    exact .schemed (trimmed_bare hne htoken hfirm) hparts hnamed
      (fun _ hc => List.mem_takeWhile_imp hc) fun _ hc => Text.kept_of_head_dropWhile hc
  rw [presents_unique hpresents h]
  exact not_prefix_of_scheme hmark htoken

namespace Gate

variable {g : Gate} {cipher : TokenCipher} {identity : String}

/-- A presented credential that is what was issued is verified. -/
theorem verify_issued (nonce : TokenCipher.Nonce) (hkey : g.cipher = some cipher)
    (hmark : g.mark ≠ "")
    (h : Presents text.toList (g.mark.toList ++ (cipher.mint nonce identity).toList)) :
    g.verify text = .ok (.verified identity) := by
  rw [verify_marked hkey h hmark rfl, String.ofList_toList, TokenCipher.identity?_mint]

/-- What holds in one case and fails in the other is decided by the case. -/
theorem verified_iff_of_cases {p : Prop} {answer elsewhere : Except AuthError Caller}
    (hdiffer : elsewhere ≠ .ok (.verified identity))
    (hyes : p → answer = .ok (.verified identity)) (hno : ¬ p → answer = elsewhere) :
    (answer = .ok (.verified identity) ↔ p) ∧ (¬ p → answer = elsewhere) := by
  refine ⟨⟨fun h => ?_, hyes⟩, hno⟩
  by_contra hp
  exact hdiffer ((hno hp).symm.trans h)

/-- **What is issued is recognised, but for two kinds of marks.**  A gate with a key issues a
credential to every identity, which is also what is minted for it under the same key and mark.
Behind the scheme it is verified as that identity exactly if the mark is not empty and does not
begin with a blank; bare, exactly if the mark moreover does not begin, in whatever case, with
the scheme and a space.  Otherwise it is taken for a credential from elsewhere. -/
theorem recognises_what_it_issued (cipher : TokenCipher) (mark : String) (strict : Bool)
    (nonce : TokenCipher.Nonce) (identity : String) :
    let g : Gate := { cipher := some cipher, mark, requireToken := strict }
    let elsewhere : Except AuthError Caller := if strict then .error .invalid else .ok .unverified
    let firm : Prop := mark ≠ "" ∧ ∀ c ∈ mark.toList.head?, Text.isBlank c = false
    let scheme : Prop := "bearer ".toList <+: mark.toList.map Char.toLower
    ∃ credential, g.issue? nonce identity = some credential ∧
      (∀ key, TokenCipher.ofText key = .ok cipher →
        (CommandLine.KeyCommand.mint identity key mark).output nonce.bytes = .ok credential) ∧
      ((g.verify ("Bearer " ++ credential) = .ok (.verified identity) ↔ firm) ∧
        (¬ firm → g.verify ("Bearer " ++ credential) = elsewhere)) ∧
      (g.verify credential = .ok (.verified identity) ↔ firm ∧ ¬ scheme) ∧
        (¬ (firm ∧ ¬ scheme) → g.verify credential = elsewhere) := by
  intro g elsewhere firm scheme
  let token := (cipher.mint nonce identity).toList
  have hne : token ≠ [] := TokenCipher.mint_ne_nil
  have htoken : ∀ c ∈ token, Text.isBlank c = false := TokenCipher.mint_no_blank
  have hbare : (mark ++ cipher.mint nonce identity).toList = mark.toList ++ token :=
    String.toList_append
  have hdiffer : elsewhere ≠ .ok (.verified identity) := by
    show (if strict then _ else _) ≠ _
    cases strict <;> simp
  -- whatever is presented begins with no blank, so it does not begin with a mark that does
  have hblank : ¬ firm → ∀ text : String, g.verify text = elsewhere := by
    intro hfirm text
    obtain ⟨credential, hcredential⟩ := exists_presents text
    refine verify_unmarked rfl hcredential fun hmarked => hfirm ⟨hmarked.1, fun c hc => ?_⟩
    refine eq_false_of_ne_true fun hblank => ?_
    exact not_prefix_of_blank ⟨c, hc, hblank⟩ hcredential.head_not_blank hmarked.2
  have hlost : firm → scheme → g.verify (mark ++ cipher.mint nonce identity) = elsewhere := by
    intro hfirm hscheme
    obtain ⟨credential, hcredential⟩ := exists_presents (mark ++ cipher.mint nonce identity)
    refine verify_unmarked rfl hcredential fun hmarked => ?_
    exact not_prefix_of_bare hne htoken hfirm.2 hscheme hbare hcredential hmarked.2
  refine ⟨_, rfl, fun key hkey => ?_, verified_iff_of_cases hdiffer (fun hfirm => ?_)
    (fun hfirm => hblank hfirm _), verified_iff_of_cases hdiffer (fun h => ?_) fun h => ?_⟩
  · rw [CommandLine.KeyCommand.output, hkey, nonce.ofList_bytes]
    rfl
  · refine verify_issued nonce rfl hfirm.1 ?_
    have hkept : (mark.toList ++ token).dropWhile Text.isBlank = mark.toList ++ token :=
      Text.dropWhile_of_head (trimmed_bare hne htoken hfirm.2).starts
    have hpresents : Presents ("Bearer ".toList ++ (mark.toList ++ token)) _ :=
      presents_behind_scheme hne htoken
    rw [hkept] at hpresents
    rwa [String.toList_append, hbare]
  · obtain ⟨hfirm, hother⟩ := h
    refine verify_issued nonce rfl hfirm.1 ?_
    rw [hbare]
    exact presents_bare hne htoken hfirm.2 hother
  · by_cases hfirm : firm
    · have hscheme : scheme := by
        by_contra hother
        exact h ⟨hfirm, hother⟩
      exact hlost hfirm hscheme
    · exact hblank hfirm _

/-- With a mark that begins like the scheme, what is issued is recognised behind the scheme, and
turned away without it where a token is required. -/
theorem recognises_behind_scheme_only :
    let g : Gate := ⟨some ⟨.ofList (List.replicate 32 0x2a)⟩, "BEARER x:", true⟩
    let nonce : TokenCipher.Nonce := ⟨List.replicate 12 0x07, rfl⟩
    ∃ credential, g.issue? nonce "alice" = some credential ∧
      g.verify ("Bearer " ++ credential) = .ok (.verified "alice") ∧
      g.verify credential = .error .invalid := by
  intro g nonce
  have hfirm : "BEARER x:" ≠ "" ∧ ∀ c ∈ "BEARER x:".toList.head?, Text.isBlank c = false := by
    refine ⟨by decide, fun c hc => ?_⟩
    obtain rfl : 'B' = c := Option.some.inj hc
    decide
  have hscheme : "bearer ".toList <+: "BEARER x:".toList.map Char.toLower := by decide
  obtain ⟨credential, hissued, -, hbehind, -, hbare⟩ :=
    recognises_what_it_issued ⟨.ofList (List.replicate 32 0x2a)⟩ "BEARER x:" true nonce "alice"
  exact ⟨credential, hissued, hbehind.1.mpr hfirm, hbare fun h => h.2 hscheme⟩

end Gate

end ModelGateway
