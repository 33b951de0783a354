/-
What an identity tells.

The identity of a pod is put together from parts with slashes between them, and the key
of a source may hold slashes of its own.  The last two parts may not, so an identity is
read from its end, and identities of different sources never meet.  Those of instances in
the settings begin differently, so they meet none of them.

The slashes in a key are those of its selector, and a namespace has none, so a key is read
from its beginning.  Together the two readings give back all four parts.
-/
import ModelGateway.Endpoint.Basic

namespace ModelGateway

/-- Where the last mark is, a list comes apart in one way only. -/
theorem Text.append_mark_inj {α : Type} {a b c d : List α} {mark : α} (hb : mark ∉ b)
    (hd : mark ∉ d) (h : a ++ mark :: b = c ++ mark :: d) : a = c ∧ b = d := by
  rcases List.append_eq_append_iff.mp h with ⟨gap, hc, hgap⟩ | ⟨gap, ha, hgap⟩
  · cases gap with
    | nil => exact ⟨by simpa using hc.symm, by simpa using hgap⟩
    | cons x rest =>
      obtain ⟨-, hrest⟩ := List.cons.inj hgap
      exact absurd (hrest ▸ by simp) hb
  · cases gap with
    | nil => exact ⟨by simpa using ha, by simpa using hgap.symm⟩
    | cons x rest =>
      obtain ⟨-, hrest⟩ := List.cons.inj hgap
      exact absurd (hrest ▸ by simp) hd

/-- Where the first mark is, a list comes apart in one way only. -/
theorem Text.mark_append_inj {α : Type} {a b c d : List α} {mark : α} (ha : mark ∉ a)
    (hc : mark ∉ c) (h : a ++ mark :: b = c ++ mark :: d) : a = c ∧ b = d := by
  have hback : b.reverse ++ mark :: a.reverse = d.reverse ++ mark :: c.reverse := by
    simpa using congrArg List.reverse h
  obtain ⟨hbehind, hfront⟩ := append_mark_inj (by simpa using ha) (by simpa using hc) hback
  exact ⟨List.reverse_inj.mp hfront, List.reverse_inj.mp hbehind⟩

namespace SourceKey

variable {space space' selector selector' : String}

theorem toList_of : (of space selector).text.toList = space.toList ++ '/' :: selector.toList := by
  simp [of]

/-- A key tells its namespace, which ends at the first slash, and its selector, whatever that
holds. -/
theorem of_inj (hspace : '/' ∉ space.toList) (hspace' : '/' ∉ space'.toList)
    (h : of space selector = of space' selector') : space = space' ∧ selector = selector' := by
  have htext : (of space selector).text.toList = (of space' selector').text.toList := by rw [h]
  rw [toList_of, toList_of] at htext
  obtain ⟨hfront, hbehind⟩ := Text.mark_append_inj hspace hspace' htext
  exact ⟨String.toList_inj.mp hfront, String.toList_inj.mp hbehind⟩

/-- A slash in a namespace would leave open where it ends. -/
example : of "a/b" "c" = of "a" "b/c" := by decide

end SourceKey

namespace EndpointId

/-- An identity that a source gives to a pod whose name and address are without a slash. -/
def OfSource (source : SourceKey) (id : EndpointId) : Prop :=
  ∃ name ip : String, '/' ∉ name.toList ∧ '/' ∉ ip.toList ∧ id = ofPod source name ip

variable {s t : SourceKey} {name name' ip ip' : String}

theorem toList_ofPod : (ofPod s name ip).text.toList =
    ("pod/".toList ++ s.text.toList ++ '/' :: name.toList) ++ '/' :: ip.toList := by
  simp [ofPod]

/-- An identity tells source, name and address. -/
theorem ofPod_inj (hname : '/' ∉ name.toList) (hip : '/' ∉ ip.toList) (hname' : '/' ∉ name'.toList)
    (hip' : '/' ∉ ip'.toList) (h : ofPod s name ip = ofPod t name' ip') :
    s = t ∧ name = name' ∧ ip = ip' := by
  have htext : (ofPod s name ip).text.toList = (ofPod t name' ip').text.toList := by rw [h]
  rw [toList_ofPod, toList_ofPod] at htext
  obtain ⟨hfront, haddress⟩ := Text.append_mark_inj hip hip' htext
  obtain ⟨hkey, hcalled⟩ := Text.append_mark_inj hname hname' hfront
  refine ⟨?_, String.toList_inj.mp hcalled, String.toList_inj.mp haddress⟩
  have hsource : s.text = t.text := String.toList_inj.mp (List.append_cancel_left hkey)
  cases s
  cases t
  exact congrArg SourceKey.mk hsource

/-- Different sources give different identities. -/
theorem OfSource.unique {id : EndpointId} (hs : OfSource s id) (ht : OfSource t id) : s = t := by
  obtain ⟨name, ip, hname, hip, hid⟩ := hs
  obtain ⟨name', ip', hname', hip', hid'⟩ := ht
  exact (ofPod_inj hname hip hname' hip' (hid.symm.trans hid')).1

/-- Different instances have different identities. -/
theorem ofStatic_inj {i j : Nat} (h : ofStatic i = ofStatic j) : i = j := by
  have htext : "static/".toList ++ Nat.toDigits 10 i = "static/".toList ++ Nat.toDigits 10 j := by
    simpa [ofStatic, Nat.repr_eq_ofList_toDigits] using
      congrArg (fun id : EndpointId => id.text.toList) h
  rw [← Nat.ofDigitChars_ten_toDigits (n := i), List.append_cancel_left htext,
    Nat.ofDigitChars_ten_toDigits]

/-- An identity of a pod begins differently from one of an instance, whatever its parts hold. -/
theorem ofPod_ne_ofStatic (i : Nat) : ofPod s name ip ≠ ofStatic i := by
  intro h
  have hhead := congrArg (fun id : EndpointId => id.text.toList.head?) h
  rw [toList_ofPod] at hhead
  simp [ofStatic] at hhead

/-- No source gives an identity that an instance of the settings has. -/
theorem not_ofSource_ofStatic (i : Nat) : ¬ OfSource s (ofStatic i) := by
  intro h
  obtain ⟨name, ip, -, -, hid⟩ := h
  exact ofPod_ne_ofStatic i hid.symm

/-- **An identity tells all that it was made of.**  Pods that were found by the same selector in
the same namespace, under the same name and at the same address have the same identity, and no
others do, however many slashes the selectors hold; the same goes for the keys of sources.  No pod
has the identity of an instance, and instances are told apart by their indices. -/
theorem ofPod_eq_iff_same_parts {space space' selector selector' name name' ip ip' : String}
    (hspace : '/' ∉ space.toList) (hspace' : '/' ∉ space'.toList) (hname : '/' ∉ name.toList)
    (hname' : '/' ∉ name'.toList) (hip : '/' ∉ ip.toList) (hip' : '/' ∉ ip'.toList) :
    (ofPod (.of space selector) name ip = ofPod (.of space' selector') name' ip' ↔
        space = space' ∧ selector = selector' ∧ name = name' ∧ ip = ip') ∧
      (SourceKey.of space selector = .of space' selector' ↔
        space = space' ∧ selector = selector') ∧
      (∀ source name ip i, ofPod source name ip ≠ ofStatic i) ∧
      ∀ i j, ofStatic i = ofStatic j ↔ i = j := by
  refine ⟨⟨fun h => ?_, ?_⟩, ⟨SourceKey.of_inj hspace hspace', ?_⟩,
    fun _ _ _ i => ofPod_ne_ofStatic i, fun _ _ => ⟨ofStatic_inj, congrArg ofStatic⟩⟩
  · obtain ⟨hkey, hcalled, haddress⟩ := ofPod_inj hname hip hname' hip' h
    obtain ⟨hwhere, hwhich⟩ := SourceKey.of_inj hspace hspace' hkey
    exact ⟨hwhere, hwhich, hcalled, haddress⟩
  · rintro ⟨rfl, rfl, rfl, rfl⟩
    rfl
  · rintro ⟨rfl, rfl⟩
    rfl

/-- A selector that ends where another goes on with a slash, as if a name came next, is not taken
for it. -/
theorem ofPod_ne_of_longer_selector :
    let id := ofPod (.of "prod" "team=a") "b" "10.0.0.1"
    let id' := ofPod (.of "prod" "team=a/b") "b" "10.0.0.1"
    '/' ∉ "prod".toList ∧ '/' ∉ "b".toList ∧ '/' ∉ "10.0.0.1".toList ∧ id ≠ id' ∧
      id.text = "pod/prod/team=a/b/10.0.0.1" ∧ id'.text = "pod/prod/team=a/b/b/10.0.0.1" := by
  intro id id'
  have hspace : '/' ∉ "prod".toList := by decide
  have hname : '/' ∉ "b".toList := by decide
  have hip : '/' ∉ "10.0.0.1".toList := by decide
  refine ⟨hspace, hname, hip, fun h => ?_, rfl, rfl⟩
  obtain ⟨-, hselector, -⟩ :=
    (ofPod_eq_iff_same_parts hspace hspace hname hname hip hip).1.mp h
  exact absurd hselector (by decide)

end EndpointId

end ModelGateway
