/-
Who passes the gate.

What a caller presents is the text of its first `Authorization` without the blanks around
it, and without the scheme `Bearer` if that stands before it.  A credential with the
gateway's mark passes if its token opens, and only then, whatever the settings say: they
decide about callers that present no such credential.
-/
import ModelGateway.Credential.Gate
import ModelGateway.Proofs.Text.Trim

namespace ModelGateway

/-! ### The scheme -/

/-- Whether a text is the name of the scheme, in whatever case. -/
def NamesBearer (scheme : List Char) : Prop := scheme.map Char.toLower = "bearer".toList

/-- The credential that a text presents, behind the scheme or bare. -/
inductive Presents (text : List Char) : List Char → Prop
  | bare {core : List Char} (trimmed : Text.Trimmed text core)
      (plain : ∀ scheme rest, core = scheme ++ ' ' :: rest → ¬ NamesBearer scheme) :
      Presents text core
  | schemed {core scheme gap credential : List Char} (trimmed : Text.Trimmed text core)
      (parts : core = scheme ++ ' ' :: (gap ++ credential)) (named : NamesBearer scheme)
      (blank : ∀ c ∈ gap, Text.isBlank c = true)
      (starts : ∀ c ∈ credential.head?, Text.isBlank c = false) : Presents text credential

variable {core scheme rest credential other : List Char} {text : String}

/-- The name of the scheme has no space in it, so it ends at the first one. -/
theorem NamesBearer.no_space (h : NamesBearer scheme) : ∀ c ∈ scheme, (c == ' ') = false := by
  intro c hc
  rw [beq_eq_false_iff_ne]
  intro hspace
  have hmem : Char.toLower ' ' ∈ scheme.map Char.toLower :=
    List.mem_map.mpr ⟨c, hc, by rw [hspace]⟩
  rw [h] at hmem
  exact absurd hmem (by decide)

theorem withoutScheme_of_named (h : NamesBearer scheme) :
    (withoutScheme (String.ofList (scheme ++ ' ' :: rest))).toList =
      rest.dropWhile Text.isBlank := by
  have hcut : Text.cutAt (· == ' ') (scheme ++ ' ' :: rest) = some (scheme, rest) :=
    Text.cutAt_eq_some_iff.mpr ⟨' ', rfl, rfl, h.no_space⟩
  have hsame : Text.sameLetters scheme "bearer".toList = true := by
    unfold Text.sameLetters
    rw [h]
    decide
  unfold withoutScheme
  rw [String.toList_ofList, hcut]
  simp only [hsame, if_true, Text.trimStart, String.toList_ofList]

theorem withoutScheme_of_plain
    (h : ∀ scheme rest, core = scheme ++ ' ' :: rest → ¬ NamesBearer scheme) :
    (withoutScheme (String.ofList core)).toList = core := by
  unfold withoutScheme
  rw [String.toList_ofList]
  cases hcut : Text.cutAt (· == ' ') core with
  | none => simp only [String.toList_ofList]
  | some parts =>
    obtain ⟨scheme, rest⟩ := parts
    obtain ⟨c, hcore, hc, -⟩ := Text.cutAt_eq_some_iff.mp hcut
    rw [eq_of_beq hc] at hcore
    have hother : Text.sameLetters scheme "bearer".toList = false := by
      rw [Text.sameLetters, beq_eq_false_iff_ne]
      exact h scheme rest hcore
    simp only [hother, Bool.false_eq_true, if_false, String.toList_ofList]

theorem presents_iff : Presents text.toList credential ↔
    credential = (withoutScheme (Text.trim text)).toList := by
  unfold Text.trim
  constructor
  · intro h
    cases h with
    | bare trimmed plain => rw [← trimmed.eq_strip, withoutScheme_of_plain plain]
    | schemed trimmed parts named blank starts =>
      rw [← trimmed.eq_strip, parts, withoutScheme_of_named named,
        List.dropWhile_append_of_pos blank, Text.dropWhile_of_head starts]
  · intro h
    have htrimmed := Text.trimmed_strip text.toList
    generalize Text.stripWhile Text.isBlank text.toList = core at h htrimmed
    by_cases hnamed : ∃ scheme rest, core = scheme ++ ' ' :: rest ∧ NamesBearer scheme
    · obtain ⟨scheme, rest, rfl, hscheme⟩ := hnamed
      have hparts : scheme ++ ' ' :: rest =
          scheme ++ ' ' :: (rest.takeWhile Text.isBlank ++ rest.dropWhile Text.isBlank) := by
        rw [List.takeWhile_append_dropWhile]
      rw [h, withoutScheme_of_named hscheme]
      exact .schemed htrimmed hparts hscheme (fun _ hc => List.mem_takeWhile_imp hc)
        fun _ hc => Text.kept_of_head_dropWhile hc
    · have hplain : ∀ scheme rest, core = scheme ++ ' ' :: rest → ¬ NamesBearer scheme := by
        intro scheme rest hcore hscheme
        exact hnamed ⟨scheme, rest, hcore, hscheme⟩
      rw [h, withoutScheme_of_plain hplain]
      exact .bare htrimmed hplain

/-- Every text presents exactly one credential. -/
theorem presents_unique (h : Presents text.toList credential)
    (hother : Presents text.toList other) : other = credential :=
  (presents_iff.mp hother).trans (presents_iff.mp h).symm

theorem exists_presents (text : String) : ∃ credential, Presents text.toList credential :=
  ⟨_, presents_iff.mpr rfl⟩

/-! ### What is asked of it -/

/-- The first `Authorization` is a text, and presents a credential. -/
def Headers.Bring (headers : Headers) (credential : List Char) : Prop :=
  ∃ value text, headers.get? "authorization" = some value ∧
    HeaderValue.text? value = some text ∧ Presents text.toList credential

theorem Headers.Bring.unique {headers : Headers} (h : headers.Bring credential)
    (hother : headers.Bring other) : other = credential := by
  obtain ⟨value, text, hvalue, htext, hcredential⟩ := h
  obtain ⟨value', text', hvalue', htext', hcredential'⟩ := hother
  obtain rfl : value = value' := Option.some.inj (hvalue.symm.trans hvalue')
  obtain rfl : text = text' := Option.some.inj (htext.symm.trans htext')
  exact presents_unique hcredential hcredential'

namespace Gate

/-- A credential has the gateway's mark, if the gateway has one. -/
def Marked (g : Gate) (credential : List Char) : Prop :=
  g.mark ≠ "" ∧ g.mark.toList <+: credential

/-- A credential is the gateway's mark and a token that opens as an identity. -/
def Opens (g : Gate) (cipher : TokenCipher) (credential : List Char) (identity : String) : Prop :=
  g.mark ≠ "" ∧ ∃ token, credential = g.mark.toList ++ token ∧
    cipher.identity? (String.ofList token) = some identity

/-- The callers that pass, and as whom. -/
inductive Admits (g : Gate) (cipher : TokenCipher) (headers : Headers) : Caller → Prop
  | verified {credential : List Char} {identity : String} (brought : headers.Bring credential)
      (opens : g.Opens cipher credential identity) : Admits g cipher headers (.verified identity)
  | unverified {credential : List Char} (free : g.requireToken = false)
      (brought : headers.Bring credential) (unmarked : ¬ g.Marked credential) :
      Admits g cipher headers .unverified
  | anonymous (free : g.requireToken = false) (silent : headers.get? "authorization" = none) :
      Admits g cipher headers .anonymous

variable {g : Gate} {cipher : TokenCipher} {headers : Headers} {caller : Caller}

/-- Where a token is required, whoever passes is known. -/
theorem Admits.verified_of_required (h : g.Admits cipher headers caller)
    (hrequired : g.requireToken = true) : ∃ identity, caller = .verified identity := by
  cases h with
  | verified brought opens => exact ⟨_, rfl⟩
  | unverified free brought unmarked =>
    rw [hrequired] at free
    cases free
  | anonymous free silent =>
    rw [hrequired] at free
    cases free

theorem verify_marked (hkey : g.cipher = some cipher) (h : Presents text.toList credential)
    {token : List Char} (hmark : g.mark ≠ "") (htoken : credential = g.mark.toList ++ token) :
    g.verify text = match cipher.identity? (String.ofList token) with
      | some identity => .ok (.verified identity)
      | none => .error .invalid := by
  have hlead : Text.dropLead? g.mark.toList (withoutScheme (Text.trim text)).toList =
      some token := by
    rw [← presents_iff.mp h]
    exact Text.dropLead?_eq_some_iff.mpr htoken
  cases hopen : cipher.identity? (String.ofList token) with
  | none => simp only [verify, hkey, if_neg hmark, hlead, hopen]
  | some identity => simp only [verify, hkey, if_neg hmark, hlead, hopen]

theorem verify_unmarked (hkey : g.cipher = some cipher) (h : Presents text.toList credential)
    (hother : ¬ g.Marked credential) :
    g.verify text = if g.requireToken then .error .invalid else .ok .unverified := by
  simp only [verify, hkey]
  by_cases hmark : g.mark = ""
  · rw [if_pos hmark]
  · have hlead : Text.dropLead? g.mark.toList (withoutScheme (Text.trim text)).toList = none := by
      rw [← presents_iff.mp h]
      exact Text.dropLead?_eq_none_iff.mpr fun hlead => hother ⟨hmark, hlead⟩
    simp only [if_neg hmark, hlead]

theorem authenticate_admits (hkey : g.cipher = some cipher)
    (h : g.authenticate headers = .ok caller) : g.Admits cipher headers caller := by
  simp only [authenticate, hkey, Option.isNone_some, Bool.false_eq_true, if_false] at h
  cases hvalue : headers.get? "authorization" with
  | none =>
    cases hmode : g.requireToken with
    | true => simp [hvalue, hmode] at h
    | false =>
      have hcaller : Caller.anonymous = caller := by simpa [hvalue, hmode] using h
      exact hcaller ▸ .anonymous hmode hvalue
  | some value =>
    cases htext : HeaderValue.text? value with
    | none => simp [hvalue, htext] at h
    | some text =>
      simp only [hvalue, htext] at h
      obtain ⟨credential, hcredential⟩ := exists_presents text
      have hbring : headers.Bring credential := ⟨value, text, hvalue, htext, hcredential⟩
      by_cases hmarked : g.Marked credential
      · obtain ⟨hmark, token, htoken⟩ := hmarked
        rw [verify_marked hkey hcredential hmark htoken.symm] at h
        cases hopen : cipher.identity? (String.ofList token) with
        | none => simp [hopen] at h
        | some identity =>
          have hcaller : Caller.verified identity = caller := by simpa [hopen] using h
          exact hcaller ▸ .verified hbring ⟨hmark, token, htoken.symm, hopen⟩
      · rw [verify_unmarked hkey hcredential hmarked] at h
        cases hmode : g.requireToken with
        | true => simp [hmode] at h
        | false =>
          have hcaller : Caller.unverified = caller := by simpa [hmode] using h
          exact hcaller ▸ .unverified hmode hbring hmarked

theorem authenticate_of_admits (hkey : g.cipher = some cipher)
    (h : g.Admits cipher headers caller) : g.authenticate headers = .ok caller := by
  simp only [authenticate, hkey, Option.isNone_some, Bool.false_eq_true, if_false]
  cases h with
  | verified brought opens =>
    obtain ⟨value, text, hvalue, htext, hcredential⟩ := brought
    obtain ⟨hmark, token, htoken, hopen⟩ := opens
    simp only [hvalue, htext]
    rw [verify_marked hkey hcredential hmark htoken, hopen]
  | unverified free brought unmarked =>
    obtain ⟨value, text, hvalue, htext, hcredential⟩ := brought
    simp only [hvalue, htext]
    rw [verify_unmarked hkey hcredential unmarked]
    simp [free]
  | anonymous free silent => simp [silent, free]

/-- A caller passes, and is who it is taken for, exactly by the rules. -/
theorem authenticate_eq_ok_iff (hkey : g.cipher = some cipher) :
    g.authenticate headers = .ok caller ↔ g.Admits cipher headers caller :=
  ⟨authenticate_admits hkey, authenticate_of_admits hkey⟩

/-- A credential with the mark that does not open never passes, as whomever. -/
theorem not_admits_of_forged (hbring : headers.Bring credential) (hmarked : g.Marked credential)
    (hforged : ∀ identity, ¬ g.Opens cipher credential identity) :
    ¬ g.Admits cipher headers caller := by
  intro h
  cases h with
  | verified brought opens =>
    rw [hbring.unique brought] at opens
    exact hforged _ opens
  | unverified free brought unmarked =>
    rw [hbring.unique brought] at unmarked
    exact unmarked hmarked
  | anonymous free silent =>
    obtain ⟨value, text, hvalue, -⟩ := hbring
    rw [silent] at hvalue
    cases hvalue

end Gate

end ModelGateway
