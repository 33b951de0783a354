/-
Turns are taken in order and evenly.

Under round robin the turns of a model are counted by the choices made for it, so whatever is
asked in between, a choice is answered with its candidates turned by the number of choices
for its model before it.  That holds until the count is full, and is the step that carries
the run.

For even distribution a stretch of choices is read by columns.  As many choices as there are
candidates put into one place of the answer, one after the other, just the list of candidates
itself, turned; so each of them stands there once, wherever the stretch begins.
-/
import Mathlib.Data.List.Count
import Mathlib.Data.List.Nodup
import Mathlib.Data.List.Rotate
import ModelGateway.Balancer

namespace ModelGateway.Balancer

/-- A model and the candidates for it, of which one is to come first. -/
structure Choice (α : Type) where
  model : String
  candidates : List α
deriving DecidableEq, Repr

/-- Whether there is a choice at all, and for a certain model: only then a turn is taken. -/
def Choice.isFor {α : Type} (c : Choice α) (model : String) : Bool :=
  c.model == model && decide (2 ≤ c.candidates.length)

variable {α : Type} {b : Balancer} {c : Choice α} {model : String}

/-! ### One choice -/

theorem rotate_eq_rotate (xs : List α) (n : Nat) : rotate xs n = xs.rotate n :=
  List.rotate_eq_drop_append_take_mod.symm

theorem rotate_of_short {xs : List α} (h : xs.length < 2) (n : Nat) : xs.rotate n = xs := by
  match xs, h with
  | [], _ => exact List.rotate_nil n
  | [x], _ => exact List.rotate_singleton x n

/-- A turn is counted for its model, and for no other. -/
theorem find?_countTurn (turns : List (String × UInt64)) (counted model : String) :
    (((countTurn counted turns).find? (·.1 == model)).map (·.2)).getD 0 =
      ((turns.find? (·.1 == model)).map (·.2)).getD 0 + if counted = model then 1 else 0 := by
  induction turns with
  | nil => by_cases h : counted = model <;> simp [countTurn, h]
  | cons x rest ih =>
    obtain ⟨m, n⟩ := x
    unfold countTurn
    by_cases hm : m = counted
    · by_cases hmodel : m = model
      · simp [← hm, hmodel]
      · simp [← hm, hmodel]
    · rw [if_neg hm]
      by_cases hmodel : m = model
      · have hne : ¬ counted = model := fun h => hm (hmodel.trans h.symm)
        simp [hmodel, hne]
      · simp only [List.find?_cons, beq_eq_false_iff_ne.mpr hmodel]
        exact ih

/-- Counting a turn makes an entry for no other model. -/
theorem mem_countTurn {turns : List (String × UInt64)} {x : String × UInt64}
    (h : x ∈ countTurn model turns) : x.1 = model ∨ x ∈ turns := by
  induction turns with
  | nil => exact Or.inl (by rw [List.mem_singleton.mp h])
  | cons y rest ih =>
    unfold countTurn at h
    split at h
    · next hy =>
      rcases List.mem_cons.mp h with rfl | h
      · exact Or.inl hy
      · exact Or.inr (List.mem_cons_of_mem _ h)
    · rcases List.mem_cons.mp h with rfl | h
      · exact Or.inr List.mem_cons_self
      · rcases ih h with h | h
        · exact Or.inl h
        · exact Or.inr (List.mem_cons_of_mem _ h)

theorem order_balance (b : Balancer) (model : String) (xs : List α) :
    (b.order model xs).2.balance = b.balance := by
  unfold order
  split <;> rfl

/-- In order, or with fewer than two candidates, nothing is turned and nothing counted. -/
theorem order_of_no_choice {xs : List α} (h : b.balance = .inOrder ∨ xs.length < 2)
    (model : String) : b.order model xs = (xs, b) := if_pos h

/-- In turn, and with two candidates or more, the turn is taken and counted. -/
theorem order_of_choice {xs : List α} (hround : b.balance = .roundRobin) (hchoice : 2 ≤ xs.length)
    (model : String) :
    b.order model xs =
      (xs.rotate (b.turn model).toNat, { b with turns := countTurn model b.turns }) := by
  have hturned : ¬ (b.balance = .inOrder ∨ xs.length < 2) := by
    intro h
    rcases h with h | h
    · cases hround.symm.trans h
    · omega
  unfold order
  rw [if_neg hturned, rotate_eq_rotate]

/-- A turn is taken among the candidates there are: none is lost and none comes twice. -/
theorem order_perm (b : Balancer) (model : String) (candidates : List α) :
    (b.order model candidates).1.Perm candidates := by
  unfold order
  split
  · exact List.Perm.refl _
  · show (rotate candidates (b.turn model).toNat).Perm candidates
    rw [rotate_eq_rotate]
    exact List.rotate_perm candidates _

/-- What a choice does to the turns of every model. -/
theorem turn_order (hround : b.balance = .roundRobin) (c : Choice α) (model : String) :
    (b.order c.model c.candidates).2.turn model =
      b.turn model + if c.isFor model then 1 else 0 := by
  unfold Choice.isFor
  by_cases hchoice : 2 ≤ c.candidates.length
  · rw [order_of_choice hround hchoice]
    show (((countTurn c.model b.turns).find? (·.1 == model)).map (·.2)).getD 0 = _
    rw [find?_countTurn]
    simp [turn, hchoice]
  · rw [order_of_no_choice (Or.inr (Nat.lt_of_not_le hchoice))]
    simp [hchoice]

/-- With no choice in turn, no turn is taken. -/
theorem balancer_of_no_choice {xs : List α} (h : ¬ (b.balance = .roundRobin ∧ 2 ≤ xs.length))
    (model : String) : (b.order model xs).2 = b := by
  have hnone : b.balance = .inOrder ∨ xs.length < 2 := by
    cases hbalance : b.balance with
    | inOrder => exact Or.inl rfl
    | roundRobin => exact Or.inr (Nat.lt_of_not_le fun htwo => h ⟨hbalance, htwo⟩)
  rw [order_of_no_choice hnone]

/-- With a choice in turn, one turn of the model is taken, and none of another. -/
theorem balancer_of_choice {xs : List α} (hround : b.balance = .roundRobin)
    (hchoice : 2 ≤ xs.length) (model : String) :
    let after := (b.order model xs).2
    (∀ m, after.turn m = b.turn m + if m = model then 1 else 0) ∧
      ∀ x ∈ after.turns, x.1 = model ∨ x ∈ b.turns := by
  refine ⟨fun m => ?_, fun x hx => ?_⟩
  · refine (turn_order hround ⟨model, xs⟩ m).trans ?_
    by_cases hm : m = model
    · simp [Choice.isFor, hm, hchoice]
    · simp [Choice.isFor, hm, Ne.symm hm]
  · rw [order_of_choice hround hchoice] at hx
    exact mem_countTurn hx

/-- The candidates of a choice are turned by the turns taken for its model; where there are fewer
than two, that leaves them as they are. -/
theorem order_eq_rotate (hround : b.balance = .roundRobin) (model : String) (xs : List α) :
    (b.order model xs).1 = xs.rotate (b.turn model).toNat := by
  by_cases hchoice : 2 ≤ xs.length
  · rw [order_of_choice hround hchoice]
  · have hshort : xs.length < 2 := Nat.lt_of_not_le hchoice
    rw [order_of_no_choice (Or.inr hshort), rotate_of_short hshort]

/-! ### Many choices -/

/-- The choices made one after the other, each with the order it was answered with. -/
def answers (b : Balancer) : List (Choice α) → List (Choice α × List α)
  | [] => []
  | c :: rest =>
    let (ordered, next) := b.order c.model c.candidates
    (c, ordered) :: next.answers rest

theorem answers_cons (b : Balancer) (c : Choice α) (rest : List (Choice α)) :
    b.answers (c :: rest) = (c, (b.order c.model c.candidates).1) ::
      (b.order c.model c.candidates).2.answers rest := rfl

/-- A balancer after choices. -/
def after (b : Balancer) (choices : List (Choice α)) : Balancer :=
  choices.foldl (fun b c => (b.order c.model c.candidates).2) b

theorem after_balance (b : Balancer) (choices : List (Choice α)) :
    (b.after choices).balance = b.balance := by
  induction choices generalizing b with
  | nil => rfl
  | cons c rest ih => exact (ih _).trans (order_balance b c.model c.candidates)

/-- What comes first is answered as if nothing came behind it. -/
theorem take_answers (b : Balancer) (choices : List (Choice α)) (n : Nat) :
    (b.answers choices).take n = b.answers (choices.take n) := by
  induction choices generalizing b n with
  | nil => simp [answers]
  | cons c rest ih =>
    cases n with
    | zero => rfl
    | succ n => exact congrArg (_ :: ·) (ih _ n)

/-- What comes behind is answered by the balancer that the choices before leave. -/
theorem drop_answers (b : Balancer) (choices : List (Choice α)) (n : Nat) :
    (b.answers choices).drop n = (b.after (choices.take n)).answers (choices.drop n) := by
  induction choices generalizing b n with
  | nil => simp [answers]
  | cons c rest ih =>
    cases n with
    | zero => rfl
    | succ n => exact ih _ n

theorem length_answers (b : Balancer) (choices : List (Choice α)) :
    (b.answers choices).length = choices.length := by
  induction choices generalizing b with
  | nil => rfl
  | cons c rest ih => exact congrArg (· + 1) (ih _)

theorem getElem_answers (b : Balancer) {choices : List (Choice α)} {i : Nat}
    (hi : i < choices.length) (hi' : i < (b.answers choices).length) :
    (b.answers choices)[i] = (choices[i],
      ((b.after (choices.take i)).order choices[i].model choices[i].candidates).1) := by
  have hhead := drop_answers b choices i
  rw [List.drop_eq_getElem_cons hi, List.drop_eq_getElem_cons hi', answers_cons] at hhead
  exact (List.cons.inj hhead).1

/-- The turns of a model are counted by the choices for it. -/
theorem turn_after (hround : b.balance = .roundRobin) (choices : List (Choice α)) (model : String) :
    (b.after choices).turn model =
      b.turn model + UInt64.ofNat (choices.countP (·.isFor model)) := by
  induction choices generalizing b with
  | nil => simp [after]
  | cons c rest ih =>
    have hnext := (order_balance b c.model c.candidates).trans hround
    show ((b.order c.model c.candidates).2.after rest).turn model = _
    rw [ih hnext, turn_order hround, List.countP_cons]
    by_cases hfor : c.isFor model = true
    · simp only [hfor, if_true, UInt64.ofNat_add]
      rw [UInt64.add_assoc, UInt64.add_comm 1]
      rfl
    · simp [hfor]

/-- As long as the count is not full, it is the number of choices. -/
theorem toNat_turn_after {choices : List (Choice α)} (hround : b.balance = .roundRobin)
    (hfull : (b.turn model).toNat + choices.length < UInt64.size) :
    ((b.after choices).turn model).toNat =
      (b.turn model).toNat + choices.countP (·.isFor model) := by
  have hcount : choices.countP (·.isFor model) ≤ choices.length := List.countP_le_length
  have hword : UInt64.size = 2 ^ 64 := rfl
  rw [turn_after hround, UInt64.toNat_add, UInt64.toNat_ofNat']
  omega

/-- Each choice is answered with its candidates turned by the number of choices for its model
before it. -/
theorem answers_eq_mapIdx {choices : List (Choice α)} (hround : b.balance = .roundRobin)
    (hfull : ∀ model, (b.turn model).toNat + choices.length < UInt64.size) :
    b.answers choices = choices.mapIdx fun i c =>
      (c, c.candidates.rotate (((b.turn c.model).toNat +
        (choices.take i).countP (·.isFor c.model)) % c.candidates.length)) := by
  refine List.ext_getElem (by simp [length_answers]) fun i hi _ => ?_
  have hlt : i < choices.length := by simpa [length_answers] using hi
  have hroom : (b.turn choices[i].model).toNat + (choices.take i).length < UInt64.size :=
    Nat.lt_of_le_of_lt (Nat.add_le_add_left (List.length_take_le' i choices) _) (hfull _)
  rw [getElem_answers b hlt hi, List.getElem_mapIdx,
    order_eq_rotate ((after_balance b _).trans hround), toNat_turn_after hround hroom,
    List.rotate_mod]

/-! ### Even distribution -/

/-- What the choices for a model are answered with, if all of them have the same candidates. -/
theorem answers_isFor {choices : List (Choice α)} {xs : List α} (hround : b.balance = .roundRobin)
    (hsame : ∀ c ∈ choices, c.isFor model = true → c.candidates = xs)
    (hfull : (b.turn model).toNat + choices.length < UInt64.size) :
    ((b.answers choices).filter (·.1.isFor model)).map (·.2) =
      (List.range (choices.countP (·.isFor model))).map fun j =>
        xs.rotate ((b.turn model).toNat + j) := by
  induction choices generalizing b with
  | nil => rfl
  | cons c rest ih =>
    rw [List.length_cons] at hfull
    have hnext := (order_balance b c.model c.candidates).trans hround
    have hturn := turn_order hround c model
    have hrest : ∀ d ∈ rest, d.isFor model = true → d.candidates = xs :=
      fun d hd => hsame d (List.mem_cons_of_mem c hd)
    rw [answers_cons]
    by_cases hfor : c.isFor model = true
    · have hmodel : c.model = model := by
        simp only [Choice.isFor, Bool.and_eq_true, beq_iff_eq] at hfor
        exact hfor.1
      have hcount : ((b.order c.model c.candidates).2.turn model).toNat =
          (b.turn model).toNat + 1 := by
        have hword : UInt64.size = 2 ^ 64 := rfl
        rw [hturn, if_pos hfor, UInt64.toNat_add, UInt64.toNat_one]
        exact Nat.mod_eq_of_lt (by omega)
      rw [List.filter_cons_of_pos (by exact hfor), List.map_cons, ih hnext hrest (by omega), hcount,
        List.countP_cons_of_pos (by exact hfor), List.range_succ_eq_map, List.map_cons, List.map_map]
      refine congr (congrArg _ ?_) (List.map_congr_left fun j _ => ?_)
      · rw [order_eq_rotate hround, hmodel, hsame c List.mem_cons_self hfor, Nat.add_zero]
      · simp only [Function.comp_apply, Nat.succ_eq_add_one]
        rw [Nat.add_assoc, Nat.add_comm 1]
    · rw [if_neg hfor, UInt64.add_zero] at hturn
      rw [List.filter_cons_of_neg (by exact hfor), ih hnext hrest (by rw [hturn]; omega), hturn,
        List.countP_cons_of_neg (by exact hfor)]

/-- As many turns as there are candidates bring into one place the list of candidates, turned. -/
theorem column_eq_rotate (xs : List α) (start : Nat) {i : Nat} (hi : i < xs.length) :
    ((List.range xs.length).map fun j => (xs.rotate (start + j))[i]?) =
      (xs.rotate (start + i)).map some := by
  refine List.ext_getElem (by simp) fun j hj hj' => ?_
  have hlt : j < xs.length := by simpa using hj
  rw [List.getElem_map, List.getElem_map, List.getElem_range, List.getElem?_rotate hi,
    List.getElem_rotate]
  have hplace : (i + (start + j)) % xs.length = (j + (start + i)) % xs.length := by
    congr 1
    omega
  rw [hplace, List.getElem?_eq_getElem (Nat.mod_lt _ (by omega))]

/-- Whole rounds of turns bring every candidate into every place once each. -/
theorem countP_rotate [DecidableEq α] {xs : List α} (hdistinct : xs.Nodup) {e : α} (he : e ∈ xs)
    {i : Nat} (hi : i < xs.length) (start rounds : Nat) :
    (List.range (rounds * xs.length)).countP
      (fun j => (xs.rotate (start + j))[i]? == some e) = rounds := by
  induction rounds generalizing start with
  | zero => simp
  | succ k ih =>
    have hfirst : (List.range xs.length).countP
        (fun j => (xs.rotate (start + j))[i]? == some e) = 1 := by
      calc (List.range xs.length).countP (fun j => (xs.rotate (start + j))[i]? == some e)
          = ((List.range xs.length).map fun j => (xs.rotate (start + j))[i]?).count (some e) := by
            rw [List.count, List.countP_map]
            rfl
        _ = (xs.rotate (start + i)).count e := by
            rw [column_eq_rotate xs start hi]
            exact List.count_map_of_injective _ some (fun _ _ h => Option.some.inj h) e
        _ = 1 := List.count_eq_one_of_mem (List.nodup_rotate.mpr hdistinct)
            (List.mem_rotate.mpr he)
    rw [Nat.succ_mul, Nat.add_comm, List.range_add, List.countP_append, hfirst, List.countP_map]
    have hrest := ih (start + xs.length)
    simp only [Nat.add_assoc] at hrest
    rw [show ((fun j => (xs.rotate (start + j))[i]? == some e) ∘ fun j => xs.length + j) =
      fun j => (xs.rotate (start + (xs.length + j)))[i]? == some e from rfl, hrest]
    omega

/-- So many times as many choices for a model as they all have candidates bring each candidate just
so many times into each place. -/
theorem countP_answers [DecidableEq α] {choices : List (Choice α)} {xs : List α} {rounds : Nat}
    (hround : b.balance = .roundRobin)
    (hfull : (b.turn model).toNat + choices.length < UInt64.size) (hdistinct : xs.Nodup)
    (hsame : ∀ c ∈ choices, c.isFor model = true → c.candidates = xs)
    (hrounds : choices.countP (·.isFor model) = rounds * xs.length) {e : α} (he : e ∈ xs) {i : Nat}
    (hi : i < xs.length) :
    (b.answers choices).countP (fun x => x.1.isFor model && x.2[i]? == some e) = rounds := by
  calc (b.answers choices).countP (fun x => x.1.isFor model && x.2[i]? == some e)
      = (((b.answers choices).filter (·.1.isFor model)).map (·.2)).countP
          (·[i]? == some e) := by
        rw [List.countP_map, List.countP_filter]
        simp only [Function.comp_apply, Bool.and_comm]
    _ = (List.range (rounds * xs.length)).countP
          (fun j => (xs.rotate ((b.turn model).toNat + j))[i]? == some e) := by
        rw [answers_isFor hround hsame hfull, hrounds, List.countP_map]
        rfl
    _ = rounds := countP_rotate hdistinct he hi _ rounds

/-! ### Other models -/

/-- What is asked for other models makes no difference to the answers for one. -/
theorem answers_apart {other : Balancer} (hround : b.balance = .roundRobin)
    (hround' : other.balance = .roundRobin) (hturn : b.turn model = other.turn model)
    (choices : List (Choice α)) :
    (b.answers choices).filter (·.1.model == model) =
      other.answers (choices.filter (·.model == model)) := by
  induction choices generalizing b other with
  | nil => rfl
  | cons c rest ih =>
    have hnext := (order_balance b c.model c.candidates).trans hround
    rw [answers_cons]
    by_cases hmodel : c.model = model
    · have hnext' := (order_balance other c.model c.candidates).trans hround'
      have hturn' : (b.order c.model c.candidates).2.turn model =
          (other.order c.model c.candidates).2.turn model := by
        rw [turn_order hround, turn_order hround', hturn]
      rw [List.filter_cons_of_pos (by simpa using hmodel),
        List.filter_cons_of_pos (by simpa using hmodel), answers_cons, ih hnext hnext' hturn',
        order_eq_rotate hround, order_eq_rotate hround', hmodel, hturn]
    · have hturn' : (b.order c.model c.candidates).2.turn model = other.turn model := by
        rw [turn_order hround, hturn]
        simp [Choice.isFor, hmodel]
      rw [List.filter_cons_of_neg (by simpa using hmodel),
        List.filter_cons_of_neg (by simpa using hmodel), ih hnext hround' hturn']

/-- **Turns are taken in order and evenly.**  A balancer that starts without turns is asked for
fewer choices than its count can hold, for any models in any order.  Each is answered with its
candidates turned by the number of choices for its model before it, which leaves fewer than two as
they are; so none is lost and none comes twice, and the answers for a model are those to its
choices alone.  A stretch with so many times as many choices for a model as they all have
candidates, which are distinct and always the same, brings each candidate just so many times into
each place, be it the first or another. -/
theorem turns_in_order_and_evenly [DecidableEq α] (choices : List (Choice α))
    (hfew : choices.length < UInt64.size) :
    let b : Balancer := { balance := .roundRobin }
    b.answers choices = (choices.mapIdx fun i c =>
        (c, c.candidates.rotate
          ((choices.take i).countP (·.isFor c.model) % c.candidates.length))) ∧
      (∀ x ∈ b.answers choices, x.2.Perm x.1.candidates ∧
        (x.1.candidates.length < 2 → x.2 = x.1.candidates)) ∧
      (∀ model, (b.answers choices).filter (·.1.model == model) =
        b.answers (choices.filter (·.model == model))) ∧
      ∀ start length model (xs : List α) rounds,
        let stretch := (choices.drop start).take length
        xs.Nodup → (∀ c ∈ stretch, c.isFor model = true → c.candidates = xs) →
        stretch.countP (·.isFor model) = rounds * xs.length →
        ∀ e ∈ xs, ∀ i < xs.length,
          (((b.answers choices).drop start).take length).countP
            (fun x => x.1.isFor model && x.2[i]? == some e) = rounds := by
  intro b
  have hnone : ∀ model, (b.turn model).toNat = 0 := fun _ => rfl
  have hanswers : b.answers choices = choices.mapIdx fun i c =>
      (c, c.candidates.rotate
        ((choices.take i).countP (·.isFor c.model) % c.candidates.length)) := by
    rw [answers_eq_mapIdx rfl (fun model => by rw [hnone, Nat.zero_add]; exact hfew)]
    simp only [hnone, Nat.zero_add]
  refine ⟨hanswers, ?_, ?_, ?_⟩
  · intro x hx
    rw [hanswers] at hx
    obtain ⟨i, hi, rfl⟩ := List.mem_mapIdx.mp hx
    exact ⟨List.rotate_perm _ _, fun hshort => rotate_of_short hshort _⟩
  · intro model
    exact answers_apart rfl rfl rfl choices
  · intro start length model xs rounds stretch hdistinct hsame hrounds e he i hi
    have hbefore : (choices.take start).countP (·.isFor model) ≤ (choices.take start).length :=
      List.countP_le_length
    have hsplit : (choices.take start).length + stretch.length ≤ choices.length := by
      simp only [stretch, List.length_take, List.length_drop]
      omega
    have hturn : ((b.after (choices.take start)).turn model).toNat =
        (choices.take start).countP (·.isFor model) := by
      rw [toNat_turn_after rfl (by rw [hnone]; omega), hnone, Nat.zero_add]
    rw [drop_answers, take_answers]
    exact countP_answers (after_balance b _) (by rw [hturn]; omega) hdistinct hsame hrounds he hi

/-- Among choices for two models, one of them with a single candidate, three turns of three
candidates bring each of them first once, though the first of these turns is the second one. -/
theorem turns_of_three :
    let choices : List (Choice Nat) := [⟨"m", [1, 2, 3]⟩, ⟨"n", [1, 2]⟩, ⟨"m", [7]⟩,
      ⟨"m", [1, 2, 3]⟩, ⟨"n", [1, 2]⟩, ⟨"m", [1, 2, 3]⟩, ⟨"m", [1, 2, 3]⟩]
    let answers := Balancer.answers { balance := .roundRobin } choices
    choices.length < UInt64.size ∧
      answers.map (·.2) =
        [[1, 2, 3], [1, 2], [7], [2, 3, 1], [2, 1], [3, 1, 2], [1, 2, 3]] ∧
      ∀ e ∈ [1, 2, 3], ((answers.drop 1).take 6).countP
        (fun x => x.1.isFor "m" && x.2[0]? == some e) = 1 := by
  intro choices answers
  have hfew : choices.length < UInt64.size := by decide
  obtain ⟨hturned, -, -, heven⟩ := turns_in_order_and_evenly choices hfew
  refine ⟨hfew, ?_, fun e he => ?_⟩
  · show (Balancer.answers _ choices).map (·.2) = _
    rw [hturned]
    decide
  · exact heven 1 6 "m" [1, 2, 3] 1 (by decide) (by decide) (by decide) e he 0 (by decide)

end ModelGateway.Balancer
