/-
Who is called.

The part of an address that names a host and a port is read once and never edited.  A port
that the scheme implies is not kept when it is read, so where a port is kept it has to be
spelled beside the host.
-/
import ModelGateway.Proofs.Result
import ModelGateway.Proofs.Url.Path

namespace ModelGateway.Url

@[simp] theorem authority_withPath (u : Url) (text : String) :
    (u.withPath text).authority = u.authority := by
  unfold withPath
  split <;> rfl

@[simp] theorem scheme_withPath (u : Url) (text : String) :
    (u.withPath text).scheme = u.scheme := by
  unfold withPath
  split <;> rfl

@[simp] theorem authority_withQuery (u : Url) (query : Option String) :
    (u.withQuery query).authority = u.authority := by
  cases query <;> rfl

/-! ### A port that is kept is not the implied one -/

theorem readPort_ne_implied {implied : Option UInt16} {cs rest : List Char} {port : UInt16}
    (h : readPort implied cs = .ok (some port, rest)) : implied ≠ some port := by
  simp only [readPort] at h
  split at h
  · cases h
  · split at h
    · obtain ⟨hport, -⟩ := Prod.mk.inj (Except.ok.inj h)
      split at hport
      · cases hport
      · next hkept =>
        intro himplied
        rw [Option.some.inj hport] at hkept
        simp [himplied] at hkept
    · cases h

theorem readHostPort_ne_implied {kind : Kind} {scheme : String} {cs rest : List Char} {host : Host}
    {port : UInt16} (h : readHostPort kind scheme cs = .ok (host, some port, rest)) :
    defaultPort? scheme ≠ some port := by
  simp only [readHostPort] at h
  split at h
  all_goals
    obtain ⟨host', -, h⟩ := Result.bind_eq_ok.mp h
    split at h
    · split at h
      · cases h
      · obtain ⟨⟨port', rest'⟩, hread, h⟩ := Result.bind_eq_ok.mp h
        have hport : port' = some port := (Prod.mk.inj (Prod.mk.inj (Except.ok.inj h)).2).1
        rw [hport] at hread
        exact readPort_ne_implied hread
    · have hnone : none = some port := (Prod.mk.inj (Prod.mk.inj (Except.ok.inj h)).2).1
      cases hnone

theorem readAuthority_ne_implied {kind : Kind} {scheme : String} {more : Bool} {cs rest : List Char}
    {a : Authority} {port : UInt16} (h : readAuthority kind scheme more cs = .ok (a, rest))
    (hport : a.port = some port) : defaultPort? scheme ≠ some port := by
  simp only [readAuthority] at h
  split at h
  · obtain ⟨⟨host, port', rest'⟩, hread, h⟩ := Result.bind_eq_ok.mp h
    have ha : ⟨"", "", host, port'⟩ = a := (Prod.mk.inj (Except.ok.inj h)).1
    have hsame : port' = some port := (congrArg Authority.port ha).trans hport
    rw [hsame] at hread
    exact readHostPort_ne_implied hread
  · split at h
    · cases h
    · obtain ⟨⟨host, port', rest'⟩, hread, h⟩ := Result.bind_eq_ok.mp h
      split at h
      · cases h
      · have ha := congrArg Authority.port (Prod.mk.inj (Except.ok.inj h)).1
        have hsame : port' = some port := ha.trans hport
        rw [hsame] at hread
        exact readHostPort_ne_implied hread

/-- What is read between scheme and query has a port only if the scheme does not imply it. -/
theorem readHierarchy_ne_implied {kind : Kind} {scheme : String} {more : Bool} {cs : List Char}
    {a : Authority} {path : Path} {port : UInt16}
    (h : readHierarchy kind scheme more cs = .ok (some a, path)) (hport : a.port = some port) :
    defaultPort? scheme ≠ some port := by
  have below : ∀ {text : List Char} {more : Bool} {rest : Authority × List Char → Path},
      (do
        let read ← readAuthority kind scheme more text
        .ok (some read.1, rest read) : Except Error (Option Authority × Path)) = .ok (some a, path) →
      defaultPort? scheme ≠ some port := by
    intro text more rest h
    obtain ⟨⟨a', rest'⟩, hread, h⟩ := Result.bind_eq_ok.mp h
    have ha : a' = a := Option.some.inj (Prod.mk.inj (Except.ok.inj h)).1
    exact readAuthority_ne_implied hread (ha ▸ hport)
  unfold readHierarchy at h
  cases kind with
  | file =>
    obtain ⟨⟨host, segments⟩, -, h⟩ := Result.bind_eq_ok.mp h
    have ha := congrArg Authority.port (Option.some.inj (Prod.mk.inj (Except.ok.inj h)).1)
    rw [hport] at ha
    cases ha
  | wellKnown => exact below h
  | other =>
    simp only at h
    split at h
    · exact below h
    · cases h
    · cases h

/-- **A port that an address keeps is not the one that its scheme implies.** -/
theorem Made.port_ne_implied {u : Url} (h : Made u) {port : UInt16} (hport : u.port? = some port) :
    defaultPort? u.scheme ≠ some port := by
  induction h with
  | @read text u hread =>
    obtain ⟨a, ha, haport⟩ := Option.bind_eq_some_iff.mp hport
    obtain ⟨more, cs, hparts⟩ := parse_path hread
    rw [ha] at hparts
    exact readHierarchy_ne_implied hparts haport
  | @withPath u _ text ih =>
    rw [scheme_withPath]
    rw [port?, authority_withPath] at hport
    exact ih hport

end ModelGateway.Url
