/-
The model that a body names.

A client may spell the name of a model as it likes, and everything else in the body is
passed over.  Of a body that names a model once, the spelling still decides: the name is
taken out of the body as it stands there, so a name with an escape is refused even though
it means the same.  And of the other members the names are read, so an escape in one of them
that is half a character spoils the body, while one in a value does not.
-/
import ModelGateway.Gateway.Model
import ModelGateway.Proofs.Json.Outline
import ModelGateway.Proofs.Json.Print

namespace ModelGateway

open Json (Asked Error Gap Item Member ObjectWith Outline Sign IsValue quoted text? spelt word
  arrayTail objectTail)

/-- A body that is an object in which one member is named `model` and has a text as its value. -/
structure NamesModel (body : ByteArray) (s : String) extends
    ObjectWith "model" body.data.toList where
  signs : List Sign
  quotes : member.item.value = quoted signs
  means : text? signs = some s.toList

variable {body : ByteArray} {s : String} {k : Member} {others : List Member} {headers : Headers}
  {state : String × List String} {told : Asked String → Member → String → Except Error String}

/-- Without an override the body decides. -/
theorem requestedModel_of_body (hheader : headers.get? overrideHeader = none) :
    requestedModel headers body = modelOfBody body >>= fun model =>
      if model = "" then .error (.badRequest "model must not be empty") else .ok model := by
  rw [requestedModel, hheader]

/-! ### Other members -/

/-- The name of a member means something. -/
def HasName (k : Member) : Bool := (text? k.name).isSome

/-- Another member changes nothing, but its name must mean something. -/
theorem tell_other (hother : text? k.name ≠ some "model".toList) :
    modelOutline.tell told state k = if HasName k then .ok state else .error .malformed := by
  rw [Outline.tell, spelt, HasName]
  cases hname : text? k.name with
  | none => rfl
  | some cs =>
    have hne : ¬ "model" = String.ofList cs := by
      intro heq
      rw [hname, heq, String.toList_ofList] at hother
      exact hother rfl
    simp [Result.ok_bind, modelOutline, hne]

theorem tell_others (hothers : ∀ k ∈ others, text? k.name ≠ some "model".toList) :
    others.foldlM (modelOutline.tell told) state =
      if others.all HasName then .ok state else .error .malformed := by
  induction others with
  | nil => rfl
  | cons k others ih =>
    rw [List.foldlM_cons, tell_other (hothers k List.mem_cons_self)]
    cases hk : HasName k with
    | false => simp [hk]; rfl
    | true =>
      simp only [if_true, Result.ok_bind, ih fun x hx => hothers x (List.mem_cons_of_mem k hx),
        List.all_cons, hk, Bool.true_and]

namespace NamesModel

variable (b : NamesModel body s)

/-! ### The name of the model -/

/-- What is made of the name of the model: it is taken if it has no escape. -/
def taken (_ : Asked String) (_ : Member) (_ : String) : Except Error String :=
  if b.signs.all Sign.isPlain then .ok s
  else .error (.invalidType (Json.describeText s) "a borrowed string")

theorem tells (hk : k ∈ b.before ++ b.member :: b.behind) : modelOutline.Tells b.taken k := by
  intro f hf hname t rest _
  obtain rfl := List.mem_singleton.mp hf
  rcases List.mem_append.mp hk with hk | hk
  · exact absurd (Json.spelt_eq_ok_iff.mp hname) (b.others k (List.mem_append_left _ hk))
  rcases List.mem_cons.mp hk with rfl | hk
  · have hspelt : spelt b.signs = .ok s := Json.spelt_eq_ok_iff.mpr b.means
    show Json.takePlainText (b.member.item.bytes ++ rest) = _
    rw [Json.Item.bytes, List.append_assoc, List.append_assoc, b.quotes, Json.takePlainText_quoted,
      hspelt, Result.ok_bind, taken]
    split <;> rfl
  · exact absurd (Json.spelt_eq_ok_iff.mp hname) (b.others k (List.mem_append_right _ hk))

theorem tell_member : modelOutline.tell b.taken ("", []) b.member =
    if b.signs.all Sign.isPlain then .ok (s, ["model"])
    else .error (.invalidType (Json.describeText s) "a borrowed string") := by
  have hname : spelt b.member.name = .ok "model" := Json.spelt_eq_ok_iff.mpr b.named
  rw [Outline.tell, hname, Result.ok_bind]
  show (if List.contains [] "model" then _ else Except.map _ (b.taken _ _ _)) = _
  simp only [List.contains_nil, taken]
  cases b.signs.all Sign.isPlain <;> rfl

/-- Everything that reading the body can come to. -/
theorem read_eq : modelOutline.read (Json.textBytes body) =
    if !b.before.all HasName then .error .malformed
    else if !b.signs.all Sign.isPlain then
      .error (.invalidType (Json.describeText s) "a borrowed string")
    else if !b.behind.all HasName then .error .malformed
    else .ok s := by
  have hvalue : IsValue b.member.item.value := by
    rw [b.quotes]
    exact .string b.signs
  -- blanks that are left out at the end are still blanks between the object and the end
  have hbody : body.data.toList = (b.lead.bytes ++ 0x7B ::
      (Json.listed ((b.before ++ b.member :: b.behind).map Member.bytes) ++ b.gap.bytes)) ++
        0x7D :: b.trail.bytes :=
    b.spells.trans (by simp [objectTail])
  obtain ⟨g, hg⟩ := Json.textBytes_of_gap rfl hbody
  have hbytes : Json.textBytes body = b.lead.bytes ++
      (0x7B :: objectTail (b.before ++ b.member :: b.behind) b.gap ++ g.bytes) := by
    rw [hg]
    simp [objectTail]
  rw [hbytes, Outline.read_object b.lead b.gap g (b.isValue hvalue) fun k => b.tells,
    List.foldlM_append, tell_others fun k hk => b.others k (List.mem_append_left _ hk)]
  cases b.before.all HasName with
  | false => rfl
  | true =>
    show (modelOutline.tell b.taken ("", []) b.member >>= fun state =>
      b.behind.foldlM (modelOutline.tell b.taken) state) >>= modelOutline.whole = _
    rw [b.tell_member]
    cases b.signs.all Sign.isPlain with
    | false => rfl
    | true =>
      show b.behind.foldlM (modelOutline.tell b.taken) (s, ["model"]) >>= modelOutline.whole = _
      rw [tell_others fun k hk => b.others k (List.mem_append_right _ hk)]
      cases b.behind.all HasName <;> rfl

/-- A body that names a model is understood exactly if the name is written without an escape and
the names of the other members all mean something. -/
theorem requestedModel_eq_ok_iff (hs : s ≠ "") (hheader : headers.get? overrideHeader = none) :
    requestedModel headers body = .ok s ↔
      (∀ g ∈ b.signs, g.isPlain = true) ∧ ∀ k ∈ b.before ++ b.behind, text? k.name ≠ none := by
  have hnamed : ∀ others : List Member,
      others.all HasName = true ↔ ∀ k ∈ others, text? k.name ≠ none := by
    intro others
    simp [HasName, Option.isSome_iff_ne_none]
  rw [List.forall_mem_append, ← hnamed, ← hnamed, ← List.all_eq_true]
  rw [requestedModel_of_body hheader, modelOfBody, b.read_eq]
  cases b.before.all HasName with
  | false => simp [Except.mapError, bind, Except.bind]
  | true =>
    cases b.signs.all Sign.isPlain with
    | false => simp [Except.mapError, bind, Except.bind]
    | true =>
      cases b.behind.all HasName with
      | false => simp [Except.mapError, bind, Except.bind]
      | true => simp [Except.mapError, bind, Except.bind, hs]

end NamesModel

/-- Another member may hold anything, half a character too, and blanks may stand anywhere. -/
theorem requestedModel_beside_others :
    "m" ≠ "" ∧ Headers.get? [] overrideHeader = none ∧ requestedModel []
      " \x7b\"x\" : [null, \"\\ud800\"],\"model\":\"m\"\x7d ".toUTF8 = .ok "m" := by
  let half : Sign := .code ⟨⟨13, false⟩, ⟨8, false⟩, ⟨0, false⟩, ⟨0, false⟩⟩
  let blank : Gap := ⟨[0x20], by simp [Json.isBlank]⟩
  let items : List Item :=
    [⟨Gap.none, word "null", Gap.none⟩, ⟨blank, quoted [half], Gap.none⟩]
  let b : NamesModel " \x7b\"x\" : [null, \"\\ud800\"],\"model\":\"m\"\x7d ".toUTF8 "m" := {
    lead := blank
    before := [{
      before := Gap.none
      name := "x".toList.map Sign.ofChar
      behind := blank
      item := ⟨blank, 0x5B :: arrayTail items Gap.none, Gap.none⟩ }]
    member := {
      before := Gap.none
      name := "model".toList.map Sign.ofChar
      behind := Gap.none
      item := ⟨Gap.none, quoted ("m".toList.map Sign.ofChar), Gap.none⟩ }
    behind := []
    gap := Gap.none
    trail := blank
    signs := "m".toList.map Sign.ofChar
    spells := by decide +kernel
    named := Json.text?_map_ofChar _
    quotes := rfl
    means := Json.text?_map_ofChar _
    others := by
      simp only [List.append_nil, List.forall_mem_singleton, Json.text?_map_ofChar]
      decide
    values := by
      simp only [List.append_nil, List.forall_mem_singleton]
      refine .array items Gap.none fun i hi => ?_
      rcases List.mem_cons.mp hi with rfl | hi
      · exact .null
      · obtain rfl := List.mem_singleton.mp hi
        exact .string [half] }
  exact ⟨by decide, rfl, (b.requestedModel_eq_ok_iff (by decide) rfl).mpr ⟨by decide, by decide⟩⟩

/-- A name that is written with an escape is refused, whatever it means. -/
theorem requestedModel_escaped_name :
    Nonempty (NamesModel "\x7b\"model\": \"a\\/b\"\x7d".toUTF8 "a/b") ∧ "a/b" ≠ "" ∧
      Headers.get? [] overrideHeader = none ∧
      requestedModel [] "\x7b\"model\": \"a\\/b\"\x7d".toUTF8 = .error (.badRequest
        ("body must be JSON with a 'model' field: " ++
          (Error.invalidType (Json.describeText "a/b") "a borrowed string").message)) := by
  let signs : List Sign := [Sign.ofChar 'a', .letter .slash, Sign.ofChar 'b']
  let b : NamesModel "\x7b\"model\": \"a\\/b\"\x7d".toUTF8 "a/b" := {
    lead := Gap.none
    before := []
    member := {
      before := Gap.none
      name := "model".toList.map Sign.ofChar
      behind := Gap.none
      item := ⟨⟨[0x20], by simp [Json.isBlank]⟩, quoted signs, Gap.none⟩ }
    behind := []
    gap := Gap.none
    trail := Gap.none
    signs := signs
    spells := by decide +kernel
    named := Json.text?_map_ofChar _
    quotes := rfl
    means := by decide
    others := by simp
    values := by simp }
  refine ⟨⟨b⟩, by decide, rfl, ?_⟩
  have hread : modelOutline.read (Json.textBytes "\x7b\"model\": \"a\\/b\"\x7d".toUTF8) =
      .error (.invalidType (Json.describeText "a/b") "a borrowed string") := b.read_eq.trans rfl
  rw [requestedModel_of_body rfl, modelOfBody, hread]
  rfl

end ModelGateway
